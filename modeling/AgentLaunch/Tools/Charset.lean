import AgentLaunch.Tools.Pieces

/-!
# Character sets

The tool that converts texts between character sets. Texts are known here by their characters, so a
conversion fails or it does not, and what it leaves is the text.
-/

namespace AgentLaunch.Tools.Charset

open Shell (State)

inductive Kind where
  | all
  | upTo (last : Nat)
  /-- All characters, in units of more than one byte. -/
  | wide (unit : Nat)
  | foreign

def parts : List String :=
  ["1", "2", "3", "4", "5", "6", "7", "8", "9", "10", "11", "13", "14", "15", "16"]

/-- The names of character sets, in capital letters and without dashes or underscores. -/
def kinds : List (String × Kind) :=
  let named (k : Kind) (names : List String) : List (String × Kind) := names.map fun n => (n, k)
  named .all ["UTF8", "UTF7", "GB18030"] ++
    named (.upTo 128)
      (["ASCII", "USASCII", "ANSIX3.41968", "ISO646US", "646", "KOI8R", "KOI8U", "SHIFTJIS", "SJIS",
        "EUCJP", "EUCKR", "EUCCN", "EUCTW", "GBK", "GB2312", "BIG5", "BIG5HKSCS", "ISO2022JP",
        "ISO2022KR", "MACINTOSH", "TIS620", "CP437", "CP850", "CP852", "CP866", "CP932", "CP936",
        "CP949", "CP950", "IBM850", "IBM437", "C", "POSIX"] ++
        ["1250", "1251", "1253", "1254", "1255", "1256", "1257", "1258"].flatMap fun n =>
          ["CP" ++ n, "WINDOWS" ++ n]) ++
    named (.upTo 256) (["CP1252", "WINDOWS1252"] ++ parts.flatMap fun n =>
      ["ISO8859" ++ n, "LATIN" ++ n, "L" ++ n]) ++
    named (.wide 2) ["UTF16", "UTF16LE", "UTF16BE", "UCS2", "UCS2LE", "UCS2BE", "UNICODE",
      "UNICODELITTLE", "UNICODEBIG", "ISO10646UCS2"] ++
    named (.wide 4) ["UTF32", "UTF32LE", "UTF32BE", "UCS4", "UCS4LE", "UCS4BE", "WCHART",
      "ISO10646UCS4", "INTERNAL"] ++
    named .foreign ["EBCDICUS", "IBM037", "IBM500", "IBM1047", "CP037", "CP500", "CP1047"]

/-- A character set by its name, and whether characters that it lacks are passed over or put in
another way. Without a name it is that of the system. -/
def find? (t : String) : Option (Kind × Bool) :=
  let words := t.splitOn "//"
  let name := (words.headD "").toList.map Char.toUpper
  let lenient := words.tail.any fun w => w.toUpper = "IGNORE" || w.toUpper = "TRANSLIT"
  if name = [] then some (.upTo 128, lenient)
  else
    let key := String.ofList (name.filter fun c => c ≠ '-' && c ≠ '_')
    (kinds.find? fun k => k.1 = key).map fun k => (k.2, lenient)

/-- Whether a text can be read in a set. -/
def isIn (k : Kind) (t : List Char) : Bool :=
  match k with
  | .all => !t.contains (Char.ofNat 65533)
  | .upTo 128 => t.all fun c => c.toNat < 128
  | .upTo _ => true
  | .wide _ => t = []
  | .foreign => t = []

/-- Whether a set has all characters of a text. -/
def holds (k : Kind) (t : List Char) : Bool :=
  match k with
  | .upTo n => t.all fun c => c.toNat < n
  | _ => true

def run (s : State) (r : Reading) : State :=
  if r.has "l" then s
  else
    let source := find? ((r.value? "f").getD "")
    let goal := find? ((r.value? "t").getD "")
    match source, goal with
    | some (k, _), some (g, lenient) =>
      let (ts, s) := texts 1 s r.operands
      let (t, code) := ts.foldl (fun (front, code) (_, t) =>
        if isIn k t ∧ (lenient ∨ r.has "c" ∨ holds g t) then (front ++ t, code)
        else (front, 1)) (([] : List Char), s.status)
      match r.value? "o" with
      | none => (s.say (String.ofList t)).withStatus code
      | some path =>
        match written s path false t with
        | .ok s => s.withStatus code
        | .error _ => s.withStatus 1
    | _, _ => s.withStatus 1

def tool : Tool where
  letters := "f:t:lco:sV?"
  names := "from-code:=f to-code:=t list=l output:=o silent=s verbose help=? usage=? version=V"
  usage := 64
  run := run

end AgentLaunch.Tools.Charset
