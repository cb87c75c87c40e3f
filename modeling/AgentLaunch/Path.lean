/-!
# Paths

Names of files, written as words separated by slashes.
-/

namespace AgentLaunch.Path

/-- The words between slashes, empty ones included. -/
def words (s : List Char) : List String :=
  let (word, later) := s.foldr (fun c (word, later) =>
    if c = '/' then ([], String.ofList word :: later) else (c :: word, later)) ([], [])
  String.ofList word :: later

def isAbsolute (p : String) : Bool :=
  p.toList.head? = some '/'

/-- A path seen from a directory, without a second slash if the directory ends in one. -/
def join (directory p : String) : String :=
  if isAbsolute p then p
  else if directory.toList.getLast? = some '/' then directory ++ p
  else directory ++ "/" ++ p

/-- The words of a path that name something: neither empty ones nor single points. -/
def components (p : String) : List String :=
  (words p.toList).filter fun w => w ≠ "" && w ≠ "."

def ofComponents (cs : List String) : String :=
  String.join (cs.map ("/" ++ ·))

/-- The name of the file that a path leads to. -/
def fileName? (p : String) : Option String :=
  match (components p).getLast? with
  | some ".." => none
  | name => name

/-- The same absolute path with an ending appended to the name of its file. -/
def appendEnding? (ending p : String) : Option String :=
  (fileName? p).map fun name => ofComponents ((components p).dropLast ++ [name ++ ending])

/-- What is left of two lists without the beginning that they share. -/
def dropShared : List String → List String → List String × List String
  | a :: as, b :: bs => if a = b then dropShared as bs else (a :: as, b :: bs)
  | as, bs => (as, bs)

/-- The way from an absolute directory to an absolute path. -/
def relativeTo (directory p : String) : String :=
  let (down, up) := dropShared (components p) (components directory)
  String.intercalate "/" (List.replicate up.length ".." ++ down)

end AgentLaunch.Path
