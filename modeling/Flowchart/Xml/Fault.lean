/-!
# What can be wrong with an Xml document

The causes for which a text is no Xml document, by the part of the text in which they arise, with
their wording. Positions and ranges count bytes.
-/

namespace Flowchart.Xml

/-- The kinds of markup that can be left open. -/
inductive Markup where
  | instruction
  | comment
  | doctype
  | characterData
  | tag
  deriving DecidableEq, Repr

/-- How a message says that markup was left open. -/
def Markup.unclosed : Markup → String
  | .instruction =>
      "processing instruction or xml declaration not closed: `?>` not found before end of input"
  | .comment => "comment not closed: `-->` not found before end of input"
  | .doctype => "DOCTYPE not closed: `>` not found before end of input"
  | .characterData => "CDATA not closed: `]]>` not found before end of input"
  | .tag => "tag not closed: `>` not found before end of input"

/-- What can be wrong with an attribute. -/
inductive AttributeFault where
  | expectedEquals (position : Nat)
  | expectedValue (position : Nat)
  | unquoted (position : Nat)
  | openQuote (position : Nat) (quote : Char)
  | duplicate (position previous : Nat)
  deriving DecidableEq, Repr

/-- The wording of what is wrong with an attribute. -/
def AttributeFault.message : AttributeFault → String
  | .expectedEquals p => s!"position {p}: attribute key must be directly followed by `=` or space"
  | .expectedValue p => s!"position {p}: `=` must be followed by an attribute value"
  | .unquoted p => s!"position {p}: attribute value must be enclosed in `\"` or `'`"
  | .openQuote p quote => s!"position {p}: missing closing quote `{quote}` in attribute value"
  | .duplicate p previous =>
      s!"position {p}: duplicated attribute, previous declaration at position {previous}"

/-- What can be wrong with the number of a character. -/
inductive CharacterFault where
  | sign
  | empty
  | digit
  | tooLarge
  | noCharacter (code : Nat)
  | zero
  deriving DecidableEq, Repr

/-- The wording of what is wrong with the number of a character. -/
def CharacterFault.message : CharacterFault → String
  | .sign => "unexpected number sign"
  | .empty => "cannot parse integer from empty string"
  | .digit => "invalid digit found in string"
  | .tooLarge => "number too large to fit in target type"
  | .noCharacter code => s!"`{code}` is not a valid codepoint"
  | .zero => "0x0 character is not permitted in XML"

/-- The causes for which a text is no Xml document. -/
inductive Fault where
  | unclosed (markup : Markup)
  | unknownMarkup
  | unnamedDoctype
  | unmatchedEnd (name : String)
  | mismatchedEnd (expected found : String)
  | attribute (fault : AttributeFault)
  | unknownEntity (first last : Nat) (name : String)
  | unfinishedEntity (first last : Nat)
  | character (fault : CharacterFault)
  | secondRoot (name : String)
  | unexpectedEnd
  | openElement
  | noRoot
  deriving DecidableEq, Repr

/-- The wording of a cause. -/
def Fault.message : Fault → String
  | .unclosed markup => s!"syntax error: {markup.unclosed}"
  | .unknownMarkup => "syntax error: unknown or missed symbol in markup"
  | .unnamedDoctype => "ill-formed document: " ++
      "`<!DOCTYPE>` declaration does not contain a name of a document type"
  | .unmatchedEnd name =>
      s!"ill-formed document: close tag `</{name}>` does not match any open tag"
  | .mismatchedEnd expected found =>
      s!"ill-formed document: expected `</{expected}>`, but `</{found}>` was found"
  | .attribute fault => fault.message
  | .unknownEntity first last name => s!"at {first}..{last}: unrecognized entity `{name}`"
  | .unfinishedEntity first last =>
      s!"Error while escaping character at range {first}..{last}: Cannot find ';' after '&'"
  | .character fault => s!"invalid character reference: {fault.message}"
  | .secondRoot name => s!"multiple root elements ('{name}' after the root)"
  | .unexpectedEnd => "unexpected closing tag"
  | .openElement => "unclosed element"
  | .noRoot => "no root element"

end Flowchart.Xml
