import LineHighlight.Error
import LineHighlight.Files.Path
import LineHighlight.Files.Tree

/-!
Bundles of resources.

A resource is addressed by its name and its extension, which together make its file name. A
directory reads the file of that name, an embedded bundle holds texts by file name.
-/

namespace LineHighlight

/-- Resources held in memory, in the order in which their file names first came up. -/
structure EmbeddedBundle where
  entries : List (String × String) := []
deriving DecidableEq, Repr, Inhabited

namespace EmbeddedBundle

/-- Sets the text under a file name. -/
def set (key source : String) : List (String × String) → List (String × String)
  | [] => [(key, source)]
  | (k, s) :: rest => if k = key then (k, source) :: rest else (k, s) :: set key source rest

/-- Adds a resource; the last one of a file name counts. -/
def add (b : EmbeddedBundle) (name extension source : String) : EmbeddedBundle where
  entries := set (Files.fileName name extension) source b.entries

/-- The number of resources. -/
def size (b : EmbeddedBundle) : Nat :=
  b.entries.length

/-- Whether there are no resources. -/
def isEmpty (b : EmbeddedBundle) : Bool :=
  b.entries.isEmpty

/-- The text of a resource. -/
def load (b : EmbeddedBundle) (name extension : String) : Except Error String :=
  match b.entries.find? fun p => p.1 == Files.fileName name extension with
  | some p => .ok p.2
  | none => .error (.resourceNotFound name extension)

end EmbeddedBundle

/-- Resources in the files of a directory. -/
structure DirectoryBundle where
  root : String
deriving DecidableEq, Repr, Inhabited

namespace DirectoryBundle

/-- The text of a resource. A file that is not there is a resource that is not there; any other
fault is one of reading. -/
def load (b : DirectoryBundle) (files : Files.Tree) (start : Files.Place)
    (name extension : String) : Except Error String :=
  match files.readText start (Files.join b.root (Files.fileName name extension)) with
  | .ok s => .ok s
  | .error .notFound => .error (.resourceNotFound name extension)
  | .error fault => .error (.io fault.message)

end DirectoryBundle

end LineHighlight
