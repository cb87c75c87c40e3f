/-!
# Options of tools

How words on a command line are read as options, their values, and operands. A grammar names the
options with one letter and those with a long name; a long name can be shortened as long as it stays
clear which one is meant.
-/

namespace AgentLaunch.Tools

inductive Trailing where
  | nothing
  | value
  /-- A value that has to stand in the same word. -/
  | maybe
  deriving DecidableEq

structure LongOption where
  name : String
  trailing : Trailing
  /-- What the option is known by. Options with the same key mean the same. -/
  key : String

structure Grammar where
  letters : List (Char × Trailing)
  names : List LongOption
  mixed : Bool

structure Given where
  key : String
  value : Option String
  deriving DecidableEq

structure Reading where
  /-- The options in order, up to the first mistake. -/
  given : List Given
  operands : List String
  mistaken : Bool

namespace Reading

def after (front : List Given) (r : Reading) : Reading :=
  { r with given := front ++ r.given }

def has (r : Reading) (key : String) : Bool :=
  r.given.any fun g => g.key = key

def hasAny (r : Reading) (keys : List String) : Bool :=
  keys.any r.has

def values (r : Reading) (key : String) : List String :=
  r.given.filterMap fun g => if g.key = key then g.value else none

def value? (r : Reading) (key : String) : Option String :=
  (r.values key).getLast?

def last? (r : Reading) (keys : List String) : Option String :=
  (r.given.filter fun g => keys.contains g.key).getLast?.map (·.key)

end Reading

/-- Letters, each with as many colons behind it as its value asks for: one if there has to be one,
two if there may be one. -/
def lettersOf : List Char → List (Char × Trailing)
  | [] => []
  | c :: ':' :: ':' :: rest => (c, .maybe) :: lettersOf rest
  | c :: ':' :: rest => (c, .value) :: lettersOf rest
  | c :: rest => (c, .nothing) :: lettersOf rest

/-- A long name with such colons, and its key if that is not the name itself. -/
def LongOption.ofText (t : String) : LongOption :=
  let front := t.toList.takeWhile (· ≠ '=')
  let name := String.ofList (front.takeWhile (· ≠ ':'))
  let trailing := match front.length - name.length with
    | 0 => .nothing
    | 1 => .value
    | _ => .maybe
  ⟨name, trailing, if front.length = t.length then name else
    String.ofList (t.toList.drop (front.length + 1))⟩

namespace Grammar

/-- A grammar from its letters and its names between blanks. A plus in front says that options end
at the first operand. -/
def ofText (letters names : String) : Grammar where
  letters := lettersOf (letters.toList.filter (· ≠ '+'))
  names := ((names.splitOn " ").filter (· ≠ "")).map LongOption.ofText
  mixed := !letters.startsWith "+"

/-- Whether an option only asks for a text about the tool. -/
def informs (g : Grammar) (key : String) : Bool :=
  g.names.any fun o => o.key = key && (o.name = "help" || o.name = "version")

inductive Ending where
  | complete
  /-- The next word is the value of an option. -/
  | awaits (key : String)
  | wrong

/-- The options in a word of letters. -/
def cluster (g : Grammar) : List Char → List Given × Ending
  | [] => ([], .complete)
  | c :: rest =>
    let key := String.singleton c
    match (g.letters.find? fun l => l.1 = c).map (·.2) with
    | none => ([], .wrong)
    | some Trailing.nothing =>
      let (more, ending) := cluster g rest
      (⟨key, none⟩ :: more, ending)
    | some .value =>
      if rest = [] then ([], .awaits key) else ([⟨key, some (String.ofList rest)⟩], .complete)
    | some .maybe =>
      ([⟨key, if rest = [] then none else some (String.ofList rest)⟩], .complete)

def meant (g : Grammar) (name : String) : List LongOption :=
  match g.names.find? fun o => o.name = name with
  | some o => [o]
  | none => g.names.filter fun o => o.name.startsWith name

/-- The option in a word with a long name. -/
def long (g : Grammar) (t : List Char) : List Given × Ending :=
  let name := t.takeWhile (· ≠ '=')
  let value := if name.length = t.length then none
    else some (String.ofList (t.drop (name.length + 1)))
  match g.meant (String.ofList name) with
  | [] => ([], .wrong)
  | o :: others =>
    if others.any fun p => p.key ≠ o.key || p.trailing ≠ o.trailing then ([], .wrong)
    else match o.trailing, value with
      | .nothing, some _ => ([], .wrong)
      | .value, none => ([], .awaits o.key)
      | _, value => ([⟨o.key, value⟩], .complete)

/-- The options in a word that begins with a dash. -/
def options (g : Grammar) (w : String) : List Given × Ending :=
  match w.toList with
  | '-' :: '-' :: rest => if g.names.isEmpty then g.cluster ('-' :: rest) else g.long rest
  | _ :: letters => g.cluster letters
  | [] => ([], .complete)

def read (g : Grammar) : List String → Reading
  | [] => ⟨[], [], false⟩
  | w :: rest =>
    if w = "--" then ⟨[], rest, false⟩
    else if w = "-" ∨ !w.startsWith "-" then
      if g.mixed then
        let r := read g rest
        { r with operands := w :: r.operands }
      else ⟨[], w :: rest, false⟩
    else match g.options w with
      | (given, .complete) => (read g rest).after given
      | (given, .wrong) => ⟨given, [], true⟩
      | (given, .awaits key) =>
        match rest with
        | [] => ⟨given, [], true⟩
        | value :: rest => (read g rest).after (given ++ [⟨key, some value⟩])

end Grammar

end AgentLaunch.Tools
