import LineHighlight.Text.Lines
import LineHighlight.Text.Utf8

/-!
A tree of files, read by path.

A path is walked part by part from the root or from a working directory. Every part but the
last must lead to a directory; `.` stays, `..` goes up, and at the root it stays as well. There
are no links, so where a path leads depends only on the directories on the way.
-/

namespace LineHighlight.Files

/-- What a name stands for. -/
inductive Entry where
  | file (bytes : List UInt8)
  | directory
deriving DecidableEq, Repr

/-- A place in the tree, as the names from the root. -/
abbrev Place := List String

/-- The files and directories by their places. The root is always there. -/
structure Tree where
  entries : List (Place × Entry) := []
deriving DecidableEq, Repr

/-- Why a file cannot be read. -/
inductive Fault where
  | notFound
  | notADirectory
  | isADirectory
  | nameTooLong
  | nulInName
  | notText
deriving DecidableEq, Repr

/-- The wording of a fault. -/
def Fault.message : Fault → String
  | .notFound => "No such file or directory (os error 2)"
  | .notADirectory => "Not a directory (os error 20)"
  | .isADirectory => "Is a directory (os error 21)"
  | .nameTooLong => "File name too long (os error 36)"
  | .nulInName => "file name contained an unexpected NUL byte"
  | .notText => "stream did not contain valid UTF-8"

/-- The largest number of bytes of a name. -/
def maxName : Nat := 255

/-- The number of bytes from which on a path is too long. -/
def maxPath : Nat := 4096

/-- The parts of a path between its separators, without the empty ones. A separator at the end
asks for a directory, like a dot behind it. -/
def parts (path : String) : List String :=
  let names := ((Text.cutAt '/' path.toList).map String.ofList).filter (· ≠ "")
  if path.toList.getLast? == some '/' then names ++ ["."] else names

namespace Tree

/-- The entry at a place. -/
def entry? (t : Tree) (place : Place) : Option Entry :=
  if place = [] then some .directory
  else (t.entries.find? fun p => p.1 == place).map Prod.snd

/-- Puts an entry at a place. -/
def put (t : Tree) (place : Place) (e : Entry) : Tree where
  entries := (place, e) :: t.entries.filter fun p => p.1 != place

/-- Takes a place away with all below it. -/
def erase (t : Tree) (place : Place) : Tree where
  entries := t.entries.filter fun p => !place.isPrefixOf p.1

/-- Makes a directory with all above it. -/
def makeDirectory (t : Tree) (place : Place) : Tree :=
  (List.range place.length).foldl
    (fun t n =>
      let here := place.take (n + 1)
      if (t.entry? here).isSome then t else t.put here .directory) t

/-- Where a path leads from a place by its parts alone. -/
def locate (start : Place) (path : String) : Place :=
  (parts path).foldl
    (fun here name =>
      if name = "." then here else if name = ".." then here.dropLast else here ++ [name])
    (if path.toList.head? == some '/' then [] else start)

/-- Writes a file and makes the directories above it. -/
def writeFile (t : Tree) (place : Place) (bytes : List UInt8) : Tree :=
  (t.makeDirectory place.dropLast).put place (.file bytes)

/-- One step of a walk, from a place to what a name stands for there. -/
def step (t : Tree) (here : Place) (name : String) : Except Fault Place :=
  if t.entry? here ≠ some .directory then .error .notADirectory
  else if name = "." then .ok here
  else if name = ".." then .ok here.dropLast
  else if maxName < name.utf8ByteSize then .error .nameTooLong
  else if (t.entry? (here ++ [name])).isSome then .ok (here ++ [name])
  else .error .notFound

/-- The place that a list of names leads to. -/
def walk (t : Tree) (here : Place) (names : List String) : Except Fault Place :=
  names.foldlM t.step here

/-- The place that a path leads to from a working directory. -/
def resolve (t : Tree) (start : Place) (path : String) : Except Fault Place :=
  if path.toList.contains '\x00' then .error .nulInName
  else if maxPath ≤ path.utf8ByteSize then .error .nameTooLong
  else if path = "" then .error .notFound
  else t.walk (if path.toList.head? == some '/' then [] else start) (parts path)

/-- The text of a file. -/
def readText (t : Tree) (start : Place) (path : String) : Except Fault String := do
  let place ← t.resolve start path
  match t.entry? place with
  | none => .error .notFound
  | some .directory => .error .isADirectory
  | some (.file bytes) =>
    match Text.ofUtf8? bytes with
    | some s => .ok s
    | none => .error .notText

end Tree

end LineHighlight.Files
