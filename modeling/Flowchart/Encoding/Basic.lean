import Flowchart.Encoding.ByteTable
import Flowchart.Encoding.Utf
import Flowchart.Text.Blank
import Flowchart.Text.CharSet

/-!
# Encodings by label

Text from bytes in an encoding that is named by one of its labels. A mark of the byte order at the
start of the bytes overrides the label.
-/

namespace Flowchart

/-- How characters are written as bytes. -/
inductive Encoding where
  | utf8
  | utf16 (bigEndian : Bool)
  | singleByte (code : String)
  /-- Upper bytes are characters for private use. -/
  | userDefined
  /-- Encodings that are not safe to read: all of it becomes one replacement character. -/
  | unreadable

namespace Encoding

/-- The labels of encodings without a table. -/
def plainLabels : List (List String × Encoding) := [
  (["unicode-1-1-utf-8", "unicode11utf8", "unicode20utf8", "utf-8", "utf8", "x-unicode20utf8"],
    utf8),
  (["unicodefffe", "utf-16be"], utf16 true),
  (["csunicode", "iso-10646-ucs-2", "ucs-2", "unicode", "unicodefeff", "utf-16", "utf-16le"],
    utf16 false),
  (["x-user-defined"], userDefined),
  (["csiso2022kr", "hz-gb-2312", "iso-2022-cn", "iso-2022-cn-ext", "iso-2022-kr", "replacement"],
    unreadable)]

/-- Blank characters around labels. -/
def isLabelBlank (c : Char) : Bool := ['\t', '\n', '\x0c', '\r', ' '].contains c

/-- A label in the form in which labels are compared. -/
def normalLabel (label : String) : String :=
  let trimmed := ((label.toList.dropWhile isLabelBlank).reverse.dropWhile isLabelBlank).reverse
  Text.asciiLower (String.ofList trimmed)

/-- The encoding with a label. -/
def ofLabel? (label : String) : Option Encoding :=
  let label := normalLabel label
  match plainLabels.find? fun (labels, _) => labels.contains label with
  | some (_, encoding) => some encoding
  | none => (byteTables.find? fun t => t.labels.contains label).map fun t => singleByte t.code

/-- The characters of bytes of which each is one. -/
def fromSingleBytes (code : String) (bytes : List UInt8) : List Char :=
  let table := (Text.CharSet.codeNumbers none code.toList).toArray
  bytes.map fun b =>
    if b.toNat < 128 then Char.ofNat b.toNat
    else Char.ofNat (table[b.toNat - 128]?.getD replacement.toNat)

/-- The text of bytes in an encoding, without a mark of the byte order. -/
def decodeBody (encoding : Encoding) (bytes : List UInt8) : List Char :=
  match encoding with
  | utf8 => fromUtf8 none bytes
  | utf16 bigEndian => fromUnits bigEndian none bytes
  | singleByte code => fromSingleBytes code bytes
  | userDefined => bytes.map fun b =>
      Char.ofNat (if b.toNat < 128 then b.toNat else 0xF700 + b.toNat)
  | unreadable => if bytes.isEmpty then [] else [replacement]

/-- The text of bytes in an encoding, or in the one that a mark at their start tells. -/
def decode (encoding : Encoding) (bytes : List UInt8) : String :=
  String.ofList (match bytes with
    | 0xEF :: 0xBB :: 0xBF :: rest => decodeBody utf8 rest
    | 0xFE :: 0xFF :: rest => decodeBody (utf16 true) rest
    | 0xFF :: 0xFE :: rest => decodeBody (utf16 false) rest
    | _ => decodeBody encoding bytes)

end Encoding
end Flowchart
