/-!
Blank characters and trimming.

Two classes of blanks are in use. Requests, settings and decoded relevance texts trim the
characters with the Unicode property `White_Space`. Scripts trim their own class, which has
the byte-order mark in place of the next-line control.
-/

namespace LineHighlight.Text

/-- The characters with the Unicode property `White_Space`. -/
def isBlank (c : Char) : Bool :=
  (0x09 ≤ c.toNat && c.toNat ≤ 0x0d) || c.toNat == 0x20 || c.toNat == 0x85 || c.toNat == 0xa0 ||
    c.toNat == 0x1680 || (0x2000 ≤ c.toNat && c.toNat ≤ 0x200a) || c.toNat == 0x2028 ||
    c.toNat == 0x2029 || c.toNat == 0x202f || c.toNat == 0x205f || c.toNat == 0x3000

/-- The code points that a script strips around a numeral: white space and line ends of its
own grammar, the byte-order mark among them and the next-line control not. -/
def isScriptBlank (c : Char) : Bool :=
  c.toNat == 0xfeff || (isBlank c && c.toNat != 0x85)

/-- `trimBy p s` drops the longest run of characters with `p` at both ends. -/
def trimBy (p : Char → Bool) (s : String) : String :=
  String.ofList (((s.toList.dropWhile p).reverse.dropWhile p).reverse)

/-- Drops `White_Space` characters at both ends. -/
def trim (s : String) : String :=
  trimBy isBlank s

/-- Whether nothing is left after trimming. -/
def isBlankText (s : String) : Bool :=
  s.toList.all isBlank

/-- Folds ASCII capitals to small letters and leaves every other character alone. -/
def lowerAscii (s : String) : String :=
  s.map Char.toLower

/-- Whether two texts are the same up to the case of ASCII letters. -/
def eqIgnoringCase (a b : String) : Bool :=
  lowerAscii a == lowerAscii b

/-- Whether `part` occurs in `whole` as a contiguous piece. -/
def occursIn (part : List Char) : List Char → Bool
  | [] => part.isEmpty
  | c :: rest => part.isPrefixOf (c :: rest) || occursIn part rest

/-- Whether `part` is a substring of `whole`. -/
def contains (whole part : String) : Bool :=
  occursIn part.toList whole.toList

end LineHighlight.Text
