import AgentLaunch.Environment
import AgentLaunch.OsError
import AgentLaunch.Path

/-!
# File trees

Files and directories by their place below the root.
-/

namespace AgentLaunch

/-- What can be found at a place. -/
inductive FileTree.Node where
  | directory
  | file (contents : ByteArray) (executable : Bool)
  /-- A program of the system, whose contents nobody reads. -/
  | program (name : String)
  /-- A device that keeps nothing; it is empty or has no end. -/
  | device (endless : Bool)
  /-- Another name of what a path leads to. -/
  | link (target : String)
  | fifo

/-- Places, as the names that lead there, with what is there. All places above one of them are
directories. Of two entries for one place the later counts. -/
structure FileTree where
  entries : List (List String × FileTree.Node)

namespace FileTree

def empty : FileTree := ⟨[]⟩

def add (t : FileTree) (place : List String) (node : Node) : FileTree :=
  ⟨t.entries ++ [(place, node)]⟩

/-- Puts something in the place of what is there. -/
def replace (t : FileTree) (place : List String) (node : Node) : FileTree :=
  ⟨t.entries.filter (fun e => e.1 ≠ place) ++ [(place, node)]⟩

/-- Takes away what is at a place; the directory that it is in stays. -/
def remove (t : FileTree) (place : List String) : FileTree :=
  ⟨t.entries.filter (fun e => e.1 ≠ place) ++ [(place.dropLast, .directory)]⟩

def get? (t : FileTree) (place : List String) : Option Node :=
  match t.entries.reverse.find? fun e => e.1 = place with
  | some e => some e.2
  | none =>
    if place = [] ∨ t.entries.any fun e => place.isPrefixOf e.1 then some .directory else none

def names (t : FileTree) (place : List String) : List String :=
  let found := t.entries.filterMap fun e =>
    if place.isPrefixOf e.1 then e.1[place.length]? else none
  (found.mergeSort fun a b => a ≤ b).eraseDups

def maxName : Nat := 255

def maxPath : Nat := 4095

/-- How many links are followed on the way to a file. -/
def maxLinks : Nat := 40

/-- Where the words of a path lead without links. -/
inductive Step where
  | found (place : List String) (node : Node)
  /-- A link in a directory, with the words behind it. -/
  | link (directory : List String) (target : String) (rest : List String)

/-- Follows the words of a path from a directory up to the first link. The last word may be taken
for the link itself. -/
def walk (t : FileTree) (followLast : Bool) (place : List String) :
    List String → Except OsError Step
  | [] =>
    match t.get? place with
    | some node => .ok (.found place node)
    | none => .error .noEntry
  | w :: rest =>
    match t.get? place with
    | none => .error .noEntry
    | some .directory =>
      if w = "" ∨ w = "." then walk t followLast place rest
      else if w = ".." then walk t followLast place.dropLast rest
      else if w.utf8ByteSize > maxName then .error .nameTooLong
      else match t.get? (place ++ [w]) with
        | some (.link target) =>
          if rest = [] ∧ !followLast then .ok (.found (place ++ [w]) (.link target))
          else .ok (.link place target rest)
        | _ => walk t followLast (place ++ [w]) rest
    | some _ => .error .notDirectory

/-- Follows the words of a path from a directory, with at most so many links. -/
def follow (t : FileTree) (followLast : Bool) (place words : List String) :
    Nat → Except OsError (List String × Node)
  | 0 => .error .tooManyLevels
  | n + 1 => do
    match ← t.walk followLast place words with
    | .found place node => return (place, node)
    | .link directory target rest =>
      let begin := if Path.isAbsolute target then [] else directory
      t.follow followLast begin (Path.words target.toList ++ rest) n

/-- The words of a path as it is seen from a working directory. -/
def wordsOf (workingDirectory path : String) : Except OsError (List String) :=
  if path = "" then .error .noEntry
  else if path.utf8ByteSize > maxPath then .error .nameTooLong
  else .ok (Path.words (Path.join workingDirectory path).toList)

/-- The place that a path leads to, seen from a working directory, and what is there. -/
def lookup (t : FileTree) (workingDirectory path : String) :
    Except OsError (List String × Node) := do
  t.follow true [] (← wordsOf workingDirectory path) (maxLinks + 1)

/-- The place that a path leads to and what is there, which can be a link. -/
def lookupLink (t : FileTree) (workingDirectory path : String) :
    Except OsError (List String × Node) := do
  t.follow false [] (← wordsOf workingDirectory path) (maxLinks + 1)

/-- The place of a file that is to be made: its directory has to be there, and no directory may be
in its place. A link there may lead on. -/
def placeFrom (t : FileTree) (followLast : Bool) (place words : List String) :
    Nat → Except OsError (List String)
  | 0 => .error .tooManyLevels
  | n + 1 => do
    match ← t.follow true place words.dropLast (maxLinks + 1), words.getLast? with
    | (directory, .directory), some name =>
      if name = "" ∨ name = "." ∨ name = ".." then throw .isDirectory
      match t.get? (directory ++ [name]) with
      | some .directory => throw .isDirectory
      | some (.link target) =>
        if !followLast then return directory ++ [name]
        let begin := if Path.isAbsolute target then [] else directory
        t.placeFrom followLast begin (Path.words target.toList) n
      | _ => return directory ++ [name]
    | _, _ => throw .notDirectory

/-- The place of a file that is written to, seen from a working directory. -/
def placeToWrite (t : FileTree) (workingDirectory path : String) :
    Except OsError (List String) := do
  t.placeFrom true [] (← wordsOf workingDirectory path) (maxLinks + 1)

/-- The place for a new name, seen from a working directory. -/
def placeToMake (t : FileTree) (workingDirectory path : String) :
    Except OsError (List String) := do
  t.placeFrom false [] (← wordsOf workingDirectory path) (maxLinks + 1)

/-- The tree as a program that only reads sees it. Every file in it can be read. -/
def fileSystem (t : FileTree) (workingDirectory : String) : FileSystem where
  workingDirectory := workingDirectory
  read path :=
    match t.lookup workingDirectory path with
    | .ok (_, .file contents _) => .contents contents
    | .ok (_, .program _) => .contents .empty
    | _ => .missing

end FileTree

end AgentLaunch
