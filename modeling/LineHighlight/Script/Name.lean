import LineHighlight.Number.Literal
import LineHighlight.Script.Payload
import LineHighlight.Text.Identifier

/-!
Names that a script declares.

A payload may name its entry point as it likes, and the script has that name where a declaration
wants a variable. A name that is no identifier makes a script of another form, or none: what
follows an identifier is taken for the rest of a declaration without a value.
-/

namespace LineHighlight.Script

/-- Words that cannot be the name of a variable. -/
def reservedWords : List String :=
  ["null", "false", "true", "if", "else", "return", "var", "this", "delete", "void", "typeof",
    "new", "in", "instanceof", "do", "while", "for", "break", "continue", "switch", "case",
    "default", "throw", "try", "catch", "finally", "function", "debugger", "with", "class",
    "const", "enum", "export", "extends", "import", "super", "implements", "interface", "let",
    "package", "private", "protected", "public", "static", "yield"]

/-- Whether a character has no place in a script outside of its strings. -/
def isAlien (c : Char) : Bool :=
  0x80 ≤ c.toNat && !Text.startsIdentifier c && !Text.isScriptBlank c

/-- Why a script cannot have a word that starts with a digit, if it cannot. -/
def numeralFault? (word : List Char) : Option String :=
  match word with
  | '0' :: c :: _ =>
    if c.isDigit then some "octal literals are deprecated in strict mode"
    else isNumeral word
  | _ => isNumeral word
where
  isNumeral (word : List Char) : Option String :=
    let hasValue := match Numeral.radix? word with
      | some (radix, ds) => (Numeral.digits? radix ds).isSome
      | none => (Numeral.decimal? false word).isSome
    if hasValue then none else some "invalid number literal"

/-- Why a script cannot have a text where a variable is declared, if it cannot. -/
def wordFault? (text : List Char) : Option String :=
  let word := text.takeWhile Text.continuesIdentifier
  match text with
  | [] => some "variable name expected"
  | c :: _ =>
    if c.isDigit then (numeralFault? word).or (some "variable name expected")
    else if isAlien c then some "unexpected character"
    else if !Text.startsIdentifier c || reservedWords.contains (String.ofList word) then
      some "variable name expected"
    else none

/-- Why a script cannot go on with a text after the name of a variable, if it cannot. -/
def restFault? (declaration : Declaration) (rest : List Char) : Option String :=
  if rest.isEmpty then none
  else if declaration = .const then some "missing initializer for const variable"
  else some "expecting ';'"

/-- Why a name cannot be declared as a variable, if it cannot. -/
def nameFault? (declaration : Declaration) (name : String) : Option String :=
  let word := String.ofList (name.toList.takeWhile Text.continuesIdentifier)
  let rest := (Text.trimBy Text.isScriptBlank
    (String.ofList (name.toList.dropWhile Text.continuesIdentifier))).toList
  (wordFault? name.toList).or
    (if rest.head?.any isAlien then some "unexpected character"
    else if word = "eval" ∨ word = "arguments" then some "invalid variable name in strict mode"
    else if word = "undefined" ∧ declaration ≠ .var then some "'undefined' already declared"
    else restFault? declaration rest)

end LineHighlight.Script
