import Flowchart.Text.Blank
import Flowchart.Xml.Tag

/-!
# Tokens of an Xml document

A document is cut into tags, pieces of text and pieces of character data; comments, declarations
and processing instructions are passed over. Text is trimmed at both ends, and blank text is no
token. End tags must match the start tags before them. `tokens` gives all tokens before the first
fault, and that fault.
-/

namespace Flowchart.Xml

/-- A token of a document. The content of a tag is what stands between its brackets. -/
inductive Token where
  | startTag (content : List Char)
  | emptyTag (content : List Char)
  | endTag
  | text (raw : List Char)
  | characterData (content : List Char)
  | ignored
  deriving DecidableEq, Repr

/-- Where a scan for the end of a tag is: outside quotes or inside those of one kind. -/
def nextQuote (quote : Option Char) (c : Char) : Option Char :=
  match quote with
  | none => if c = '"' || c = '\'' then some c else none
  | some q => if c = q then none else some q

/-- What stands before the first `>` outside quotes, and what follows. -/
def cutTag? (quote : Option Char) : List Char → Option (List Char × List Char)
  | [] => none
  | c :: cs =>
      if quote.isNone && c = '>' then some ([], cs)
      else (cutTag? (nextQuote quote c) cs).map fun (content, rest) => (c :: content, rest)

/-- What stands before the `>` that closes a document type with so many `<` open. -/
def cutDoctype? (depth : Nat) : List Char → Option (List Char × List Char)
  | [] => none
  | c :: cs =>
      if c = '>' && depth = 0 then some ([], cs)
      else
        let depth := if c = '<' then depth + 1 else if c = '>' then depth - 1 else depth
        (cutDoctype? depth cs).map fun (content, rest) => (c :: content, rest)

/-- Whether a text starts with a piece, up to the case of ASCII letters. -/
def startsLike (piece : String) (cs : List Char) : Bool :=
  Text.equalAsciiCase (String.ofList (cs.take piece.length)) piece

/-- A comment whose first characters are `!-`. -/
def commentToken (cs : List Char) : Except Fault (Token × List Char) :=
  let unclosed := Except.error (.unclosed .comment)
  match Text.cut? ['-', '-', '>'] (cs.drop 3) with
  | none => unclosed
  | some (_, rest) => if cs.take 3 = ['!', '-', '-'] then .ok (.ignored, rest) else unclosed

/-- Character data whose first characters are `![`. -/
def characterDataToken (cs : List Char) : Except Fault (Token × List Char) :=
  let unclosed := Except.error (.unclosed .characterData)
  match Text.cut? [']', ']', '>'] cs with
  | none => unclosed
  | some (content, rest) =>
      if startsLike "![CDATA[" content then .ok (.characterData (content.drop 8), rest)
      else unclosed

/-- A document type whose first characters are `!D`. -/
def doctypeToken (cs : List Char) : Except Fault (Token × List Char) :=
  match cutDoctype? 0 cs with
  | none => .error (.unclosed .doctype)
  | some (content, rest) =>
      if !startsLike "!DOCTYPE" content then .error (.unclosed .doctype)
      else if (content.drop 8).all isSpace then .error .unnamedDoctype
      else .ok (.ignored, rest)

/-- Markup that starts with `!`. -/
def declarationToken (cs : List Char) : Except Fault (Token × List Char) :=
  match cs.drop 1 with
  | '[' :: _ => characterDataToken cs
  | '-' :: _ => commentToken cs
  | 'D' :: _ => doctypeToken cs
  | 'd' :: _ => doctypeToken cs
  | _ => .error .unknownMarkup

/-- Markup that starts with `?`. -/
def instructionToken (cs : List Char) : Except Fault (Token × List Char) :=
  match Text.cut? ['?', '>'] cs with
  | some (_ :: _, rest) => .ok (.ignored, rest)
  | _ => .error (.unclosed .instruction)

/-- A text without the spaces at its end. -/
def trimEnd (cs : List Char) : List Char :=
  (cs.reverse.dropWhile isSpace).reverse

/-- Closes the innermost open element with an end tag; a name of spaces only is kept as it is. -/
def closeElement (opened : List (List Char)) (content : List Char) :
    Except Fault (List (List Char)) :=
  let name := if content.all isSpace then content else trimEnd content
  match opened with
  | [] => .error (.unmatchedEnd (String.ofList name))
  | expected :: more =>
      if name = expected then .ok more
      else .error (.mismatchedEnd (String.ofList expected) (String.ofList name))

/-- The token after `<`, the full names of the elements open after it, and what follows. -/
def markup (opened : List (List Char)) (cs : List Char) :
    Except Fault (Token × List (List Char) × List Char) :=
  match cs with
  | [] => .error (.unclosed .tag)
  | '!' :: _ => do
      let (token, rest) ← declarationToken cs
      return (token, opened, rest)
  | '?' :: _ => do
      let (token, rest) ← instructionToken cs
      return (token, opened, rest)
  | _ =>
      match cutTag? none cs with
      | none => .error (.unclosed .tag)
      | some ('/' :: content, rest) => do return (.endTag, ← closeElement opened content, rest)
      | some (content, rest) =>
          if content.getLast? = some '/' then .ok (.emptyTag content.dropLast, opened, rest)
          else .ok (.startTag content, tagName content :: opened, rest)

/-- The tokens of a text before the first fault, and that fault. The first argument bounds the
number of pieces of markup, the second holds the full names of the open elements. -/
def tokensFrom : Nat → List (List Char) → List Char → List Token × Option Fault
  | 0, _, _ => ([], none)
  | fuel + 1, opened, cs =>
      let cs := cs.dropWhile isSpace
      let text := trimEnd (cs.takeWhile (· ≠ '<'))
      let front := if text.isEmpty then [] else [Token.text text]
      match cs.dropWhile (· ≠ '<') with
      | [] => (front, none)
      | _ :: inside =>
          match markup opened inside with
          | .error fault => (front, some fault)
          | .ok (token, opened, rest) =>
              let (more, fault) := tokensFrom fuel opened rest
              (front ++ token :: more, fault)

/-- The tokens of a document, which may begin with a mark of its byte order. -/
def tokens (cs : List Char) : List Token × Option Fault :=
  let cs := match cs with
    | '\ufeff' :: rest => rest
    | _ => cs
  tokensFrom (cs.length + 1) [] cs

end Flowchart.Xml
