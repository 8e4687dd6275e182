/-!
# Unicode encodings

The number of bytes that characters and texts take in Utf-8, and the bytes themselves, which base 64
writes as text of letters, numerals and two signs: three bytes become four characters, and `=` fills
up the last group.

Text from bytes in Utf-8 and Utf-16. What is not well formed is read as a replacement character, one
for each longest piece that could still have become a character.
-/

namespace Flowchart.Text

/-! ## Bytes of characters -/

/-- The number of bytes of a code point. -/
def utf8Width (n : Nat) : Nat :=
  if n < 0x80 then 1 else if n < 0x800 then 2 else if n < 0x10000 then 3 else 4

/-- The number of bytes of a text. -/
def utf8Length (chars : List Char) : Nat :=
  chars.foldl (fun total c => total + utf8Width c.toNat) 0

/-- The bytes of a code point. -/
def utf8Bytes (n : Nat) : List Nat :=
  if n < 0x80 then [n]
  else if n < 0x800 then [0xC0 + n / 64, 0x80 + n % 64]
  else if n < 0x10000 then [0xE0 + n / 4096, 0x80 + n / 64 % 64, 0x80 + n % 64]
  else [0xF0 + n / 262144, 0x80 + n / 4096 % 64, 0x80 + n / 64 % 64, 0x80 + n % 64]

end Flowchart.Text

namespace Flowchart.Encoding

/-! ## Base 64 -/

/-- The character for six bits. -/
def base64Digit (n : Nat) : Char :=
  if n < 26 then Char.ofNat (65 + n)
  else if n < 52 then Char.ofNat (71 + n)
  else if n < 62 then Char.ofNat (n - 4)
  else if n = 62 then '+' else '/'

/-- Bytes in base 64. -/
def base64 : List Nat → List Char
  | [] => []
  | [a] => [base64Digit (a / 4), base64Digit (a % 4 * 16), '=', '=']
  | [a, b] =>
      [base64Digit (a / 4), base64Digit (a % 4 * 16 + b / 16), base64Digit (b % 16 * 4), '=']
  | a :: b :: c :: rest =>
      base64Digit (a / 4) :: base64Digit (a % 4 * 16 + b / 16) ::
        base64Digit (b % 16 * 4 + c / 64) :: base64Digit (c % 64) :: base64 rest

/-- A text in base 64, by its bytes in Utf-8. -/
def base64Text (s : String) : String :=
  String.ofList (base64 (s.toList.flatMap fun c => Text.utf8Bytes c.toNat))

/-! ## Characters of bytes -/

/-- The character that stands for bytes that are no character. -/
def replacement : Char := '\ufffd'

/-- What the first byte of a character in Utf-8 says: the number of bytes that follow, the bits it
contributes, and the bounds of the next byte. -/
def utf8Lead? (byte : Nat) : Option (Nat × Nat × Nat × Nat) :=
  if 0xC2 ≤ byte ∧ byte ≤ 0xDF then some (1, byte - 0xC0, 0x80, 0xBF)
  else if byte = 0xE0 then some (2, 0, 0xA0, 0xBF)
  else if byte = 0xED then some (2, 0xD, 0x80, 0x9F)
  else if 0xE1 ≤ byte ∧ byte ≤ 0xEF then some (2, byte - 0xE0, 0x80, 0xBF)
  else if byte = 0xF0 then some (3, 0, 0x90, 0xBF)
  else if byte = 0xF4 then some (3, 4, 0x80, 0x8F)
  else if 0xF1 ≤ byte ∧ byte ≤ 0xF3 then some (3, byte - 0xF0, 0x80, 0xBF)
  else none

/-- Reads Utf-8. The first argument holds the character being read: how many bytes it still lacks,
its bits so far, and the bounds of the next byte. -/
def fromUtf8 : Option (Nat × Nat × Nat × Nat) → List UInt8 → List Char
  | none, [] => []
  | some _, [] => [replacement]
  | none, b :: rest =>
      if b.toNat < 0x80 then Char.ofNat b.toNat :: fromUtf8 none rest
      else match utf8Lead? b.toNat with
        | none => replacement :: fromUtf8 none rest
        | lead => fromUtf8 lead rest
  | some (more, bits, low, high), b :: rest =>
      let byte := b.toNat
      if low ≤ byte ∧ byte ≤ high then
        let bits := bits * 64 + (byte - 0x80)
        if more = 1 then Char.ofNat bits :: fromUtf8 none rest
        else fromUtf8 (some (more - 1, bits, 0x80, 0xBF)) rest
      else if byte < 0x80 then replacement :: Char.ofNat byte :: fromUtf8 none rest
      else match utf8Lead? byte with
        | none => replacement :: replacement :: fromUtf8 none rest
        | lead => replacement :: fromUtf8 lead rest

/-- Reads units of 16 bits; the first argument is a high half that waits for the low one. A byte
that is left over at the end is read as a replacement character. -/
def fromUnits (bigEndian : Bool) : Option Nat → List UInt8 → List Char
  | none, [] => []
  | some _, [] | _, [_] => [replacement]
  | waiting, a :: b :: rest =>
      let unit := if bigEndian then a.toNat * 256 + b.toNat else b.toNat * 256 + a.toNat
      let isHigh := decide (0xD800 ≤ unit ∧ unit < 0xDC00)
      let isLow := decide (0xDC00 ≤ unit ∧ unit < 0xE000)
      match waiting with
      | some high =>
          if isLow then
            Char.ofNat (0x10000 + (high - 0xD800) * 0x400 + (unit - 0xDC00)) ::
              fromUnits bigEndian none rest
          else if isHigh then replacement :: fromUnits bigEndian (some unit) rest
          else replacement :: Char.ofNat unit :: fromUnits bigEndian none rest
      | none =>
          if isHigh then fromUnits bigEndian (some unit) rest
          else if isLow then replacement :: fromUnits bigEndian none rest
          else Char.ofNat unit :: fromUnits bigEndian none rest

end Flowchart.Encoding
