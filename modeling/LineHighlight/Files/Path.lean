/-!
Paths as texts.

A path is a text with `/` between its parts. Joining never tidies up: dots, doubled separators
and a separator at the end stay as they are.
-/

namespace LineHighlight.Files

/-- Whether a path starts at the root. -/
def isAbsolute (path : String) : Bool :=
  path.toList.head? == some '/'

/-- Whether a path ends in a separator. -/
def endsInSeparator (path : String) : Bool :=
  path.toList.getLast? == some '/'

/-- The path of a file seen from a directory. An absolute file stands for itself, and no
separator is put after an empty directory or after one that ends in a separator. -/
def join (directory file : String) : String :=
  if isAbsolute file || directory == "" then file
  else if endsInSeparator directory then directory ++ file
  else directory ++ "/" ++ file

/-- The file name of a resource. -/
def fileName (name extension : String) : String :=
  name ++ "." ++ extension

end LineHighlight.Files
