import Flowchart.Unicode.Property

/-!
# Quoted texts in messages

Messages show an unexpected text between double quotes, with everything a reader could not see
written as an escape.
-/

namespace Flowchart.Text

/-- The hexadecimal digits of a number, lower-case and without leading zeros. -/
def hexDigits (n : Nat) : List Char :=
  Nat.toDigits 16 n

/-- A character as a quoted text shows it. -/
def quoteChar (c : Char) : List Char :=
  if c = '\x00' then ['\\', '0']
  else if c = '\t' then ['\\', 't']
  else if c = '\r' then ['\\', 'r']
  else if c = '\n' then ['\\', 'n']
  else if c = '\\' then ['\\', '\\']
  else if c = '"' then ['\\', '"']
  else if Unicode.graphemeExtend.contains c || Unicode.invisible.contains c then
    ['\\', 'u', '\x7b'] ++ hexDigits c.toNat ++ ['\x7d']
  else [c]

/-- A text between double quotes, with escapes for what could not be seen. -/
def quoted (s : String) : String :=
  String.ofList ('"' :: s.toList.flatMap quoteChar ++ ['"'])

end Flowchart.Text
