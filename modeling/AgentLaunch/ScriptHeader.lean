import AgentLaunch.OsError

/-!
# Script headers

The first line of a script, which names the program that runs it. Only the begin of the file is
looked at. A line that does not end there counts as far as it is seen, if at least the name of the
program does end.
-/

namespace AgentLaunch

structure ScriptHeader where
  interpreter : List UInt8
  /-- The rest of the line, which is one argument. -/
  argument : Option (List UInt8)
  deriving DecidableEq, Repr

namespace ScriptHeader

/-- How many bytes of a file are looked at. -/
def reach : Nat := 256

private def isBlank (b : UInt8) : Bool :=
  b = 32 || b = 9

private def endsWord (b : UInt8) : Bool :=
  isBlank b || b = 0

private def dropBlanksAtEnd (line : List UInt8) : List UInt8 :=
  (line.reverse.dropWhile isBlank).reverse

/-- The begin of a file. Zeros stand for what is missing. -/
private def beginning (contents : ByteArray) : List UInt8 :=
  let bytes := contents.toList.take reach
  bytes ++ List.replicate (reach - bytes.length) 0

/-- The header that a line is, behind the mark. Whatever follows a zero is not seen. -/
private def ofLine (line : List UInt8) : ScriptHeader :=
  let rest := line.dropWhile fun b => !endsWord b
  ⟨line.takeWhile fun b => !endsWord b,
    if (rest.head?.map isBlank).getD false then
      some ((rest.dropWhile isBlank).takeWhile (· ≠ 0))
    else none⟩

def read? (contents : ByteArray) : Option ScriptHeader :=
  match beginning contents with
  | 35 :: 33 :: rest =>
    let line := rest.takeWhile fun b => b ≠ 10 && b ≠ 0
    if rest[line.length]? = some 10 then
      let line := (dropBlanksAtEnd line).dropWhile isBlank
      if line = [] then none else some (ofLine line)
    else
      let seen := rest.dropWhile isBlank
      if seen.any endsWord then some (ofLine ((dropBlanksAtEnd rest.dropLast).dropWhile isBlank))
      else none
  | _ => none

end ScriptHeader

end AgentLaunch
