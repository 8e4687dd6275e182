import Flowchart.Xml.Token

/-!
# Elements

The tree of an Xml document. The text of an element is all text directly inside it, joined;
`stringValue` adds that of its descendants, after its own. `Element.ofTokens` builds the tree of a
document, which has one element at top level.
-/

namespace Flowchart.Xml

/-- An element of a document. -/
inductive Element where
  | mk (name : String) (attributes : Attributes) (text : String) (children : List Element)
  deriving Inhabited

namespace Element

/-- The local name. -/
def name : Element → String
  | mk n _ _ _ => n

/-- The attributes. -/
def attributes : Element → Attributes
  | mk _ a _ _ => a

/-- The text directly inside. -/
def text : Element → String
  | mk _ _ t _ => t

/-- The elements directly inside, in order. -/
def children : Element → List Element
  | mk _ _ _ c => c

mutual
/-- The text of an element, then that of its descendants in order. -/
def stringValue : Element → String
  | mk _ _ t children => t ++ stringValues children

/-- The string values of a list of elements, joined. -/
def stringValues : List Element → String
  | [] => ""
  | e :: rest => e.stringValue ++ stringValues rest
end

/-- Whether an element has a name; `*` stands for any. -/
def isNamed (e : Element) (name : String) : Bool :=
  name == "*" || e.name == name

mutual
/-- An element and its descendants with a name, in the order of their start tags. -/
def named (name : String) : Element → List Element
  | mk n a t children =>
      let below := namedAmong name children
      if (mk n a t children).isNamed name then mk n a t children :: below else below

/-- The elements of a list and their descendants with a name. -/
def namedAmong (name : String) : List Element → List Element
  | [] => []
  | e :: rest => e.named name ++ namedAmong name rest
end

/-- Adds text directly inside an element. -/
def addText : Element → String → Element
  | mk n a t c, more => mk n a (t ++ more) c

/-- Adds an element as the last child. -/
def addChild : Element → Element → Element
  | mk n a t c, child => mk n a t (c ++ [child])

/-- The element without text and children that a tag stands for. -/
def ofTag (content : List Char) : Except Fault Element := do
  return mk (localName (tagName content)) (← tagAttributes content) "" []

end Element

/-- A tree under construction: the open elements, innermost first, and the root if it is closed. -/
structure Builder where
  opened : List Element
  root : Option Element

namespace Builder

/-- Puts a closed element in its place. -/
def attach (b : Builder) (e : Element) : Except Fault Builder :=
  match b.opened, b.root with
  | parent :: more, _ => .ok { b with opened := parent.addChild e :: more }
  | [], none => .ok { b with root := some e }
  | [], some _ => .error (.secondRoot e.name)

/-- Adds text to the innermost open element; text outside the root is dropped. -/
def addText (b : Builder) (text : List Char) : Builder :=
  match b.opened with
  | [] => b
  | e :: more => { b with opened := e.addText (String.ofList text) :: more }

/-- Takes a token into the tree. -/
def accept (b : Builder) : Token → Except Fault Builder
  | .startTag content => do
      return { b with opened := (← Element.ofTag content) :: b.opened }
  | .emptyTag content => do b.attach (← Element.ofTag content)
  | .endTag =>
      match b.opened with
      | [] => .error .unexpectedEnd
      | e :: more => attach { b with opened := more } e
  | .text raw => do return b.addText (← unescape raw)
  | .characterData content => .ok (b.addText content)
  | .ignored => .ok b

/-- The tree, if it is complete. -/
def finish (b : Builder) : Except Fault Element :=
  match b.opened, b.root with
  | _ :: _, _ => .error .openElement
  | [], none => .error .noRoot
  | [], some root => .ok root

end Builder

/-- The tree of a list of tokens, after which the text may have a fault. -/
def Element.ofTokens (tokens : List Token) (fault : Option Fault) : Except Fault Element := do
  let b ← tokens.foldlM Builder.accept ⟨[], none⟩
  match fault with
  | some fault => throw fault
  | none => b.finish

/-- The tree of a document. -/
def Element.ofText (s : String) : Except Fault Element :=
  let (ts, fault) := tokens s.toList
  ofTokens ts fault

end Flowchart.Xml
