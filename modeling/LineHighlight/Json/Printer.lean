import LineHighlight.Json.Value
import LineHighlight.Number.Shortest
import LineHighlight.Text.Quoted

/-!
JSON text of a value, on one line or indented by two blanks.

A string escapes the double quote, the backslash and the controls below the blank, with the
short escapes where there are some, and shows every other character as itself.
-/

namespace LineHighlight

namespace JsonNumber

/-- Doubles keep `.0`, leave positional notation below `1e-5` and from `1e16`, and write the
sign of an exponent. A double that is not finite has no numeral. -/
def format : NumberFormat where
  lowest := -5
  highest := 15
  keepPoint := true
  exponentDigits := 1
  exponentPlus := true
  nan := "null"
  infinity := "null"
  signedZero := true

/-- The numeral of a number. -/
def text : JsonNumber → String
  | .integer n => toString n
  | .double x => if x.isFinite then format.text x else "null"

end JsonNumber

namespace Json

/-- `n` in hexadecimal, with zeros in front up to four digits. -/
def hex4 (n : Nat) : List Char :=
  NumberFormat.padLeft 4 (Text.hexDigits n)

/-- One character inside the quotes of a string. -/
def escapeChar (c : Char) : List Char :=
  if c = '"' then ['\\', '"']
  else if c = '\\' then ['\\', '\\']
  else if c = '\n' then ['\\', 'n']
  else if c = '\r' then ['\\', 'r']
  else if c = '\t' then ['\\', 't']
  else if c = '\x08' then ['\\', 'b']
  else if c = '\x0c' then ['\\', 'f']
  else if c.toNat < 0x20 then '\\' :: 'u' :: hex4 c.toNat
  else [c]

/-- A string in quotes. -/
def quote (s : String) : List Char :=
  '"' :: s.toList.flatMap escapeChar ++ ['"']

mutual

/-- The text of a value on one line, without blanks. -/
def compactChars : Json → List Char
  | .null => "null".toList
  | .boolean b => (if b then "true" else "false").toList
  | .number n => n.text.toList
  | .string s => quote s
  | .array items => '[' :: compactItems items ++ [']']
  | .object fields => '{' :: compactFields fields ++ ['}']

/-- The elements of an array, with commas between them. -/
def compactItems : List Json → List Char
  | [] => []
  | [v] => compactChars v
  | v :: rest => compactChars v ++ ',' :: compactItems rest

/-- The fields of an object, with commas between them. -/
def compactFields : List (String × Json) → List Char
  | [] => []
  | [(k, v)] => quote k ++ ':' :: compactChars v
  | (k, v) :: rest => quote k ++ ':' :: compactChars v ++ ',' :: compactFields rest

end

/-- The text of a value on one line, without blanks. -/
def compact (v : Json) : String :=
  String.ofList v.compactChars

/-- A line break and the indentation of a level. -/
def newLine (level : Nat) : List Char :=
  '\n' :: List.replicate (2 * level) ' '

mutual

/-- The text of a value that starts at a level of indentation. -/
def prettyChars (level : Nat) : Json → List Char
  | .null => "null".toList
  | .boolean b => (if b then "true" else "false").toList
  | .number n => n.text.toList
  | .string s => quote s
  | .array [] => ['[', ']']
  | .array (v :: rest) =>
    '[' :: newLine (level + 1) ++ prettyItems (level + 1) (v :: rest) ++ newLine level ++ [']']
  | .object [] => ['{', '}']
  | .object (f :: rest) =>
    '{' :: newLine (level + 1) ++ prettyFields (level + 1) (f :: rest) ++ newLine level ++ ['}']

/-- The elements of an array, one a line. -/
def prettyItems (level : Nat) : List Json → List Char
  | [] => []
  | [v] => prettyChars level v
  | v :: rest => prettyChars level v ++ ',' :: newLine level ++ prettyItems level rest

/-- The fields of an object, one a line. -/
def prettyFields (level : Nat) : List (String × Json) → List Char
  | [] => []
  | [(k, v)] => quote k ++ ':' :: ' ' :: prettyChars level v
  | (k, v) :: rest =>
    quote k ++ ':' :: ' ' :: prettyChars level v ++ ',' :: newLine level ++ prettyFields level rest

end

/-- The text of a value with one element or field a line. -/
def pretty (v : Json) : String :=
  String.ofList (v.prettyChars 0)

end Json

end LineHighlight
