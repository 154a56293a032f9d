import LineHighlight.Json.Value

/-!
Reading JSON text.

A reader takes a value off the front of a text and hands back the rest. It stops at the first
offence and says which it was. Arrays and objects may be nested 127 deep. When a key comes twice
its last value stands in the place of the first.
-/

namespace LineHighlight.Json

/-- What makes a text no JSON. -/
inductive ReadError where
  | eofInList
  | eofInObject
  | eofInString
  | eofInValue
  | expectedColon
  | expectedListCommaOrEnd
  | expectedObjectCommaOrEnd
  | expectedIdent
  | expectedValue
  | invalidEscape
  | invalidNumber
  | numberOutOfRange
  | controlCharacter
  | keyMustBeAString
  | loneSurrogate
  | trailingComma
  | trailingCharacters
  | endOfHexEscape
  | nestedTooDeep
deriving DecidableEq, Repr

/-- The wording of an offence. -/
def ReadError.message : ReadError → String
  | .eofInList => "EOF while parsing a list"
  | .eofInObject => "EOF while parsing an object"
  | .eofInString => "EOF while parsing a string"
  | .eofInValue => "EOF while parsing a value"
  | .expectedColon => "expected `:`"
  | .expectedListCommaOrEnd => "expected `,` or `]`"
  | .expectedObjectCommaOrEnd => "expected `,` or `\x7d`"
  | .expectedIdent => "expected ident"
  | .expectedValue => "expected value"
  | .invalidEscape => "invalid escape"
  | .invalidNumber => "invalid number"
  | .numberOutOfRange => "number out of range"
  | .controlCharacter => "control character (\\u0000-\\u001F) found while parsing a string"
  | .keyMustBeAString => "key must be a string"
  | .loneSurrogate => "lone leading surrogate in hex escape"
  | .trailingComma => "trailing comma"
  | .trailingCharacters => "trailing characters"
  | .endOfHexEscape => "unexpected end of hex escape"
  | .nestedTooDeep => "recursion limit exceeded"


/-- Blanks between tokens. -/
def isSpace (c : Char) : Bool :=
  c = ' ' || c = '\n' || c = '\t' || c = '\r'

def skipSpace (cs : List Char) : List Char :=
  cs.dropWhile isSpace

/-! ## Strings -/

/-- The value of a hexadecimal digit. -/
def hexDigit? (c : Char) : Option Nat :=
  if c.isDigit then some (c.toNat - 48)
  else if 'a' ≤ c ∧ c ≤ 'f' then some (c.toNat - 87)
  else if 'A' ≤ c ∧ c ≤ 'F' then some (c.toNat - 55)
  else none

/-- The number of bytes of a list of characters in UTF-8. -/
def byteCount (cs : List Char) : Nat :=
  cs.foldl (fun n c => n + c.utf8Size) 0

/-- Four hexadecimal digits. A text that ends within four bytes is cut off; anything else than
a digit is a bad escape. -/
def hexEscape (cs : List Char) : Except ReadError (Nat × List Char) :=
  match cs with
  | a :: b :: c :: d :: rest =>
    match hexDigit? a, hexDigit? b, hexDigit? c, hexDigit? d with
    | some w, some x, some y, some z => .ok (((w * 16 + x) * 16 + y) * 16 + z, rest)
    | _, _, _, _ => .error .invalidEscape
  | _ => .error (if byteCount cs < 4 then .eofInString else .invalidEscape)

/-- The character of a `\u` escape, after the `u`. A high surrogate needs the escape of a low
one right behind it. -/
def unicodeEscape (cs : List Char) : Except ReadError (Char × List Char) := do
  let (n, rest) ← hexEscape cs
  if 0xdc00 ≤ n ∧ n ≤ 0xdfff then .error .loneSurrogate
  else if 0xd800 ≤ n ∧ n ≤ 0xdbff then
    match rest with
    | [] => .error .eofInString
    | '\\' :: [] => .error .eofInString
    | '\\' :: 'u' :: rest => do
      let (low, rest) ← hexEscape rest
      if 0xdc00 ≤ low ∧ low ≤ 0xdfff then
        .ok (Char.ofNat (0x10000 + (n - 0xd800) * 0x400 + (low - 0xdc00)), rest)
      else .error .loneSurrogate
    | _ => .error .endOfHexEscape
  else .ok (Char.ofNat n, rest)

/-- One escape, after its backslash. -/
def escape : List Char → Except ReadError (Char × List Char)
  | [] => .error .eofInString
  | '"' :: rest => .ok ('"', rest)
  | '\\' :: rest => .ok ('\\', rest)
  | '/' :: rest => .ok ('/', rest)
  | 'b' :: rest => .ok ('\x08', rest)
  | 'f' :: rest => .ok ('\x0c', rest)
  | 'n' :: rest => .ok ('\n', rest)
  | 'r' :: rest => .ok ('\r', rest)
  | 't' :: rest => .ok ('\t', rest)
  | 'u' :: rest => unicodeEscape rest
  | _ => .error .invalidEscape

/-- The rest of a string after its opening quote, with what was read so far in reverse. Each
step takes a character, so the length of the text bounds the steps. -/
def stringRest : Nat → List Char → List Char → Except ReadError (String × List Char)
  | 0, _, _ => .error .eofInString
  | fuel + 1, acc, cs =>
    match cs with
    | [] => .error .eofInString
    | '"' :: rest => .ok (String.ofList acc.reverse, rest)
    | '\\' :: rest =>
      match escape rest with
      | .ok (c, rest) => stringRest fuel (c :: acc) rest
      | .error e => .error e
    | c :: rest =>
      if c.toNat < 0x20 then .error .controlCharacter else stringRest fuel (c :: acc) rest

/-- A string, after its opening quote. -/
def readString (cs : List Char) : Except ReadError (String × List Char) :=
  stringRest (cs.length + 1) [] cs

/-! ## Numbers

A numeral that is not a 64-bit integer becomes a double made of its leading digits that fit 64
bits and an exponent. Documents are read in two roundings: the digits become a double, which is
then multiplied or divided by a power of ten. Scripts are read in one. -/

/-- Makes a number of a sign, digits and an exponent of ten. -/
abbrev Scaling := Bool → Nat → Int → Except ReadError JsonNumber

/-- The double of `significand * 10 ^ exponent`, in steps of at most `10 ^ 308`. -/
def scaled : Nat → Binary64 → Int → Except ReadError Binary64
  | 0, x, _ => .ok x
  | fuel + 1, x, exponent =>
    if exponent.natAbs ≤ 308 then
      let power := Binary64.ofDecimal false 1 exponent.natAbs
      if 0 ≤ exponent then
        let y := x.mul power
        if y.isInfinite then .error .numberOutOfRange else .ok y
      else .ok (x.div power)
    else if x.isZero then .ok x
    else if 0 ≤ exponent then .error .numberOutOfRange
    else scaled fuel (x.div (Binary64.ofDecimal false 1 308)) (exponent + 308)

/-- The double in two roundings. After four steps of division every significand is zero. -/
def twoRoundings : Scaling := fun negative significand exponent => do
  let x ← scaled 8 (Binary64.ofInt significand) exponent
  .ok (.double (if negative then x.neg else x))

/-- The double nearest to the decimal. -/
def oneRounding : Scaling := fun negative significand exponent =>
  let x := Binary64.ofDecimal negative significand exponent
  if x.isInfinite then .error .numberOutOfRange else .ok (.double x)

/-- The largest significand that is read digit by digit. -/
def significandLimit : Nat := Nat.pow 2 64

/-- Takes digits into a significand while it fits; gives the significand, how many digits were
taken and the rest. -/
def takeDigits (significand taken : Nat) : List Char → Nat × Nat × List Char
  | [] => (significand, taken, [])
  | c :: rest =>
    if c.isDigit then
      let next := significand * 10 + (c.toNat - 48)
      if next < significandLimit then takeDigits next (taken + 1) rest
      else (significand, taken, c :: rest)
    else (significand, taken, c :: rest)

/-- The value of a run of digits. -/
def digitsValue (cs : List Char) : Nat :=
  cs.foldl (fun n c => n * 10 + (c.toNat - 48)) 0

/-- An exponent part, after its letter. -/
def readExponent (scale : Scaling) (negative : Bool) (significand : Nat) (start : Int)
    (cs : List Char) :
    Except ReadError (JsonNumber × List Char) :=
  let (down, cs) := match cs with
    | '+' :: rest => (false, rest)
    | '-' :: rest => (true, rest)
    | _ => (false, cs)
  match cs with
  | [] => .error .eofInValue
  | c :: _ =>
    if !c.isDigit then .error .invalidNumber
    else
      let e := digitsValue (cs.takeWhile Char.isDigit)
      let rest := cs.dropWhile Char.isDigit
      if Nat.pow 2 31 ≤ e then
        if significand ≠ 0 ∧ !down then .error .numberOutOfRange
        else .ok (.double (Binary64.zero negative), rest)
      else do
        let n ← scale negative significand (if down then start - e else start + e)
        .ok (n, rest)

/-- What may follow the digits of a numeral that is no integer any more. -/
def readTail (scale : Scaling) (negative : Bool) (significand : Nat) (exponent : Int)
    (cs : List Char) :
    Except ReadError (JsonNumber × List Char) :=
  match cs with
  | 'e' :: rest | 'E' :: rest => readExponent scale negative significand exponent rest
  | _ => do
    let n ← scale negative significand exponent
    .ok (n, cs)

/-- The digits after a point. Digits that do not fit the significand are dropped. -/
def readFraction (scale : Scaling) (negative : Bool) (significand : Nat) (exponent : Int)
    (cs : List Char) :
    Except ReadError (JsonNumber × List Char) :=
  let (value, taken, rest) := takeDigits significand 0 cs
  let more := rest.dropWhile Char.isDigit
  if taken = 0 ∧ more.length = rest.length then
    .error (if rest.isEmpty then .eofInValue else .invalidNumber)
  else readTail scale negative value (exponent - taken) more

/-- A numeral, after its sign. -/
def readNumber (scale : Scaling) (negative : Bool) (cs : List Char) :
    Except ReadError (JsonNumber × List Char) :=
  match cs with
  | [] => .error .eofInValue
  | c :: rest =>
    if !c.isDigit then .error .invalidNumber
    else if c = '0' ∧ (rest.head?.any Char.isDigit) then .error .invalidNumber
    else
      let (value, _, rest) := takeDigits 0 0 cs
      let more := rest.dropWhile Char.isDigit
      let dropped := rest.length - more.length
      match more with
      | '.' :: tail => readFraction scale negative value dropped tail
      | 'e' :: tail | 'E' :: tail => readExponent scale negative value dropped tail
      | _ =>
        if dropped ≠ 0 then readTail scale negative value dropped more
        else if negative then
          if value = 0 ∨ Nat.pow 2 63 < value then
            .ok (.double (Binary64.ofInt value).neg, more)
          else .ok (.integer (-(value : Int)), more)
        else .ok (.integer value, more)

/-! ## Values -/

/-- The rest of a fixed word. -/
def readIdent : List Char → List Char → Except ReadError (List Char)
  | [], cs => .ok cs
  | _ :: _, [] => .error .eofInValue
  | w :: word, c :: cs => if c = w then readIdent word cs else .error .expectedIdent

/-- Reads one value off the front of a text. -/
abbrev ItemReader := List Char → Except ReadError (Json × List Char)

/-- The elements of an array after its bracket or, when `first` is off, after an element. -/
def readItems (item : ItemReader) :
    Nat → Bool → List Char → Except ReadError (List Json × List Char)
  | 0, _, _ => .error .eofInList
  | fuel + 1, first, cs =>
    match skipSpace cs with
    | [] => .error .eofInList
    | ']' :: rest => .ok ([], rest)
    | c :: rest =>
      if c = ',' ∧ !first then
        match skipSpace rest with
        | [] => .error .eofInValue
        | ']' :: _ => .error .trailingComma
        | next => do
          let (v, rest) ← item next
          let (vs, rest) ← readItems item fuel false rest
          .ok (v :: vs, rest)
      else if first then do
        let (v, rest) ← item (c :: rest)
        let (vs, rest) ← readItems item fuel false rest
        .ok (v :: vs, rest)
      else .error .expectedListCommaOrEnd

/-- A key, its colon and its value, after the key's opening quote. -/
def readField (item : ItemReader) (cs : List Char) :
    Except ReadError ((String × Json) × List Char) := do
  let (key, rest) ← readString cs
  match skipSpace rest with
  | [] => .error .eofInObject
  | ':' :: rest => do
    let (v, rest) ← item rest
    .ok ((key, v), rest)
  | _ => .error .expectedColon

/-- The fields of an object after its brace or, when `first` is off, after a field, added to
the fields read before. -/
def readFields (item : ItemReader) :
    Nat → Bool → List (String × Json) → List Char →
      Except ReadError (List (String × Json) × List Char)
  | 0, _, _, _ => .error .eofInObject
  | fuel + 1, first, fields, cs =>
    match skipSpace cs with
    | [] => .error .eofInObject
    | '}' :: rest => .ok (fields, rest)
    | c :: rest =>
      if c = ',' ∧ !first then
        match skipSpace rest with
        | [] => .error .eofInValue
        | '"' :: rest => do
          let ((k, v), rest) ← readField item rest
          readFields item fuel false (insert k v fields) rest
        | '}' :: _ => .error .trailingComma
        | _ => .error .keyMustBeAString
      else if first then
        if c = '"' then do
          let ((k, v), rest) ← readField item rest
          readFields item fuel false (insert k v fields) rest
        else .error .keyMustBeAString
      else .error .expectedObjectCommaOrEnd

/-- A value that may hold `depth` levels of arrays and objects. -/
def readValue (scale : Scaling) : Nat → List Char → Except ReadError (Json × List Char)
  | depth, cs =>
    match skipSpace cs with
    | [] => .error .eofInValue
    | 'n' :: rest => (readIdent "ull".toList rest).map (.null, ·)
    | 't' :: rest => (readIdent "rue".toList rest).map (.boolean true, ·)
    | 'f' :: rest => (readIdent "alse".toList rest).map (.boolean false, ·)
    | '"' :: rest => (readString rest).map fun (s, r) => (.string s, r)
    | '-' :: rest => (readNumber scale true rest).map fun (n, r) => (.number n, r)
    | '[' :: rest =>
      match depth with
      | 0 => .error .nestedTooDeep
      | d + 1 => (readItems (readValue scale d) (rest.length + 1) true rest).map
          fun (vs, r) => (.array vs, r)
    | '{' :: rest =>
      match depth with
      | 0 => .error .nestedTooDeep
      | d + 1 => (readFields (readValue scale d) (rest.length + 1) true [] rest).map
          fun (fs, r) => (.object fs, r)
    | c :: rest =>
      if c.isDigit then (readNumber scale false (c :: rest)).map fun (n, r) => (.number n, r)
      else .error .expectedValue

/-- The deepest nesting that is read. -/
def depthLimit : Nat := 127

/-- The value that a text is, blanks around it allowed. -/
def readWith (scale : Scaling) (s : String) : Except ReadError Json := do
  let (v, rest) ← readValue scale depthLimit s.toList
  if (skipSpace rest).isEmpty then .ok v else .error .trailingCharacters

/-- The value of a document. -/
def read : String → Except ReadError Json :=
  readWith twoRoundings

end LineHighlight.Json
