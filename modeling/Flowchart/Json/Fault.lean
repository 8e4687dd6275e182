import Flowchart.Json.Print
import Flowchart.Text.Quoted

/-!
# What can be wrong with a document

The causes for which a document is refused, as it is read (`SyntaxFault`) or as it is decoded to a
type of this library (`Fault`), each with its wording, and the place in the text where it arose.
-/

namespace Flowchart.Json

/-- The causes for which a text is no document. -/
inductive SyntaxFault where
  | endInList
  | endInObject
  | endInString
  | endInValue
  | expectedColon
  | expectedElementEnd
  | expectedMemberEnd
  | expectedLiteral
  | expectedValue
  | invalidEscape
  | invalidNumber
  | numberOutOfRange
  | controlCharacter
  | keyNotString
  | loneSurrogate
  | unfinishedPair
  | trailingComma
  | trailingCharacters
  | tooDeep
  deriving DecidableEq, Repr

/-- The wording of a cause. -/
def SyntaxFault.message : SyntaxFault → String
  | .endInList => "EOF while parsing a list"
  | .endInObject => "EOF while parsing an object"
  | .endInString => "EOF while parsing a string"
  | .endInValue => "EOF while parsing a value"
  | .expectedColon => "expected `:`"
  | .expectedElementEnd => "expected `,` or `]`"
  | .expectedMemberEnd => "expected `,` or `\x7d`"
  | .expectedLiteral => "expected ident"
  | .expectedValue => "expected value"
  | .invalidEscape => "invalid escape"
  | .invalidNumber => "invalid number"
  | .numberOutOfRange => "number out of range"
  | .controlCharacter => "control character (\\u0000-\\u001F) found while parsing a string"
  | .keyNotString => "key must be a string"
  | .loneSurrogate => "lone leading surrogate in hex escape"
  | .unfinishedPair => "unexpected end of hex escape"
  | .trailingComma => "trailing comma"
  | .trailingCharacters => "trailing characters"
  | .tooDeep => "recursion limit exceeded"

/-- What was found where something else was expected. -/
inductive Unexpected where
  | bool (b : Bool)
  | number (n : Number)
  | string (s : String)
  | null
  | sequence
  | map

/-- How a message names what was found. -/
def Unexpected.describe : Unexpected → String
  | .bool b => s!"boolean `{b}`"
  | .number (.integer n) => s!"integer `{n}`"
  | .number (.double x) => "floating point `" ++ (Number.double x).text ++ "`"
  | .string s => "string " ++ Text.quoted s
  | .null => "null"
  | .sequence => "sequence"
  | .map => "map"

/-- What a document is, named as something unexpected. -/
def Value.unexpected : Value → Unexpected
  | .null => .null
  | .bool b => .bool b
  | .number n => .number n
  | .string s => .string s
  | .array _ => .sequence
  | .object _ => .map

/-- The causes for which a text or document is refused. -/
inductive Fault where
  | malformed (cause : SyntaxFault)
  | invalidType (found : Unexpected) (expected : String)
  | invalidValue (found : Unexpected) (expected : String)
  | invalidLength (length : Nat) (expected : String)
  | missingField (name : String)
  | duplicateField (name : String)
  | unknownVariant (name : String) (known : List String)
  | refused (reason : String)

/-- A list of names as a message offers them. -/
def offer : List String → String
  | [] => "there are no variants"
  | [a] => s!"expected `{a}`"
  | [a, b] => s!"expected `{a}` or `{b}`"
  | names => "expected one of " ++ ", ".intercalate (names.map fun name => s!"`{name}`")

/-- The wording of a cause. -/
def Fault.message : Fault → String
  | .malformed cause => cause.message
  | .invalidType found expected => s!"invalid type: {found.describe}, expected {expected}"
  | .invalidValue found expected => s!"invalid value: {found.describe}, expected {expected}"
  | .invalidLength length expected => s!"invalid length {length}, expected {expected}"
  | .missingField name => s!"missing field `{name}`"
  | .duplicateField name => s!"duplicate field `{name}`"
  | .unknownVariant name known => s!"unknown variant `{name}`, {offer known}"
  | .refused reason => reason

/-- A place in a text: lines count from one, columns count the bytes since the line began. -/
structure Position where
  line : Nat
  column : Nat
  deriving DecidableEq, Repr

/-- A cause with the place where it arose, if that is known. -/
structure Error where
  fault : Fault
  position : Option Position

/-- The wording of an error. -/
def Error.message (e : Error) : String :=
  match e.position with
  | none => e.fault.message
  | some p => s!"{e.fault.message} at line {p.line} column {p.column}"

end Flowchart.Json
