import Flowchart.Encoding.Utf

/-!
# Percent encoding

A byte that may not stand in some part of a url is written as `%` and two hexadecimal digits. Which
bytes these are depends on the part.
-/

namespace Flowchart.Url

/-- Bytes that are encoded everywhere: controls and what is not Ascii. -/
def isControl (byte : Nat) : Bool := byte < 0x20 || 0x7E < byte

/-- Whether a byte is one of a few characters. -/
def isAmong (chars : List Char) (byte : Nat) : Bool := chars.any fun c => c.toNat = byte

/-- Bytes that are encoded in a fragment. -/
def fragmentSet (byte : Nat) : Bool := isControl byte || isAmong [' ', '"', '<', '>', '\x60'] byte

/-- Bytes that are encoded in a path. -/
def pathSet (byte : Nat) : Bool := fragmentSet byte || isAmong ['#', '?', '\x7b', '\x7d'] byte

/-- Bytes that are encoded in a user name or password. -/
def userSet (byte : Nat) : Bool :=
  pathSet byte || isAmong ['/', ':', ';', '=', '@', '[', '\\', ']', '^', '|'] byte

/-- Bytes that are encoded in a query. Urls of special schemes encode the apostrophe too. -/
def querySet (special : Bool) (byte : Nat) : Bool :=
  isControl byte || isAmong [' ', '"', '#', '<', '>'] byte || (special && byte = 0x27)

/-- A hexadecimal digit, in upper case. -/
def upperHexDigit (n : Nat) : Char :=
  if n < 10 then Char.ofNat (48 + n) else Char.ofNat (55 + n)

/-- A byte as it is written. -/
def encodeByte (isEncoded : Nat → Bool) (byte : Nat) : List Char :=
  if isEncoded byte then ['%', upperHexDigit (byte / 16), upperHexDigit (byte % 16)]
  else [Char.ofNat byte]

/-- A text as it is written. -/
def encodeText (isEncoded : Nat → Bool) (cs : List Char) : List Char :=
  cs.flatMap fun c => (Text.utf8Bytes c.toNat).flatMap (encodeByte isEncoded)

/-- The value of a hexadecimal digit. -/
def hexValue? (c : Char) : Option Nat :=
  if c.isDigit then some (c.toNat - 48)
  else if 'a' ≤ c ∧ c ≤ 'f' then some (c.toNat - 87)
  else if 'A' ≤ c ∧ c ≤ 'F' then some (c.toNat - 55)
  else none

/-- The bytes that a text stands for. A `%` without two digits stands for itself. -/
def decodeBytes : List Char → List Nat
  | [] => []
  | '%' :: a :: b :: rest =>
      match hexValue? a, hexValue? b with
      | some high, some low => (16 * high + low) :: decodeBytes rest
      | _, _ => 0x25 :: decodeBytes (a :: b :: rest)
  | c :: rest => Text.utf8Bytes c.toNat ++ decodeBytes rest

/-- The text that an encoded text stands for, if its bytes are the Utf-8 form of one. -/
def decodeText? (cs : List Char) : Option String :=
  String.fromUTF8? (ByteArray.mk ((decodeBytes cs).map UInt8.ofNat).toArray)

end Flowchart.Url
