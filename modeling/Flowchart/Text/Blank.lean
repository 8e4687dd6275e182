/-!
# Blank characters and letter case

The characters with the Unicode property `White_Space`, and the three ways of cutting them off the
ends of a text. Names, labels, numbers and config fields are all compared after `trim`.

Type names, operators and connection labels are compared without regard to the case of the letters
`A` to `Z`; every other character stands for itself.
-/

namespace Flowchart.Text

/-! ## Blank characters -/

/-- The characters with the Unicode property `White_Space`. -/
def isBlank (c : Char) : Bool :=
  let n := c.toNat
  (9 ≤ n && n ≤ 13) || n == 0x20 || n == 0x85 || n == 0xA0 || n == 0x1680 ||
    (0x2000 ≤ n && n ≤ 0x200A) || n == 0x2028 || n == 0x2029 || n == 0x202F || n == 0x205F ||
    n == 0x3000

/-- Drops the blank characters at the end of a list. -/
def dropBlankEnd (cs : List Char) : List Char :=
  (cs.reverse.dropWhile isBlank).reverse

/-- Drops the blank characters at both ends of a list. -/
def trimList (cs : List Char) : List Char :=
  dropBlankEnd (cs.dropWhile isBlank)

/-- The text without the blank characters at its start. -/
def trimStart (s : String) : String :=
  String.ofList (s.toList.dropWhile isBlank)

/-- The text without the blank characters at either end. -/
def trim (s : String) : String :=
  String.ofList (trimList s.toList)

/-- Whether a text holds blank characters only. -/
def isBlankText (s : String) : Bool :=
  s.toList.all isBlank

/-! ## Letter case -/

/-- Lower-cases the letters `A` to `Z` and keeps all else. -/
def asciiLower (s : String) : String :=
  String.ofList (s.toList.map Char.toLower)

/-- Upper-cases the letters `a` to `z` and keeps all else. -/
def asciiUpper (s : String) : String :=
  String.ofList (s.toList.map Char.toUpper)

/-- Equality of texts up to the case of ASCII letters. -/
def equalAsciiCase (s t : String) : Bool :=
  asciiLower s == asciiLower t

end Flowchart.Text
