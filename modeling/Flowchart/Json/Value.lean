import Flowchart.Binary64.Basic
import Flowchart.Dictionary

/-!
# Json documents

The tree of a Json document. Whole numbers from `-2 ^ 63` to `2 ^ 64 - 1` are kept exactly, all
others as binary64 numbers. An object is a list of members; a document that was read has them
ordered by name, each name once, as a `Dictionary` does.
-/

namespace Flowchart.Json

/-- A number of a document. -/
inductive Number where
  | integer (n : Int)
  | double (x : Binary64)
  deriving DecidableEq, Inhabited

/-- A Json document. -/
inductive Value where
  | null
  | bool (b : Bool)
  | number (n : Number)
  | string (s : String)
  | array (elements : List Value)
  | object (members : List (String × Value))
  deriving Inhabited

namespace Value

/-- A whole number as a document. -/
def ofInt (n : Int) : Value := .number (.integer n)

/-- A natural number as a document. -/
def ofNat (n : Nat) : Value := .number (.integer n)

/-- A text or null. -/
def ofOptionalText : Option String → Value
  | none => .null
  | some s => .string s

/-- The value of a member of an object. -/
def get? (v : Value) (name : String) : Option Value :=
  match v with
  | .object members => members.lookup name
  | _ => none

end Value
end Flowchart.Json
