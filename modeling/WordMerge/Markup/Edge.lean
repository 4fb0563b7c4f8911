import WordMerge.Markup.Item
import WordMerge.Text.Blank

namespace WordMerge

/-- Which side of an element a piece of markup is. -/
inductive Side where
  | opening
  | closing
  /-- An element without content, as in `<w:p/>`. -/
  | empty
  deriving DecidableEq, Repr

/-- A named side of an element: what a piece of markup does to the element structure. -/
structure Edge where
  /-- The name of the element with its namespace marker. -/
  name : Text
  /-- Which side it is. -/
  side : Side
  deriving DecidableEq, Repr

namespace Edge

/-- The characters that end the name of an element. -/
def endsName (c : Char) : Bool :=
  isBlank c || c == '/' || c == '>'

/-- Whether some markup ends like an empty element. -/
def endsEmpty (raw : Text) : Bool :=
  ['/', '>'].isSuffixOf raw

/-- The edge that some markup is. Comments, CDATA sections, declarations and processing
instructions have none, and neither has markup without a name. -/
def ofMarkup? (raw : Text) : Option Edge :=
  match raw with
  | '<' :: '!' :: _ => none
  | '<' :: '?' :: _ => none
  | '<' :: '/' :: rest => named .closing rest
  | '<' :: rest => named (if endsEmpty raw then .empty else .opening) rest
  | _ => none
where
  /-- The edge with the name at the front of a text, if there is one. -/
  named (side : Side) (rest : Text) : Option Edge :=
    let name := rest.takeWhile (!endsName ·)
    if name.isEmpty then none else some ⟨name, side⟩

/-- The edge that an item is. -/
def ofItem? : Item → Option Edge
  | .markup raw => ofMarkup? raw
  | .text _ => none

/-- The edges of an XML part in order. -/
def scan (source : Text) : List Edge :=
  (Item.scan source).filterMap ofItem?

end Edge

/-- The names of the elements that matter to a template. -/
def paragraphName : Text := ['w', ':', 'p']
/-- The name of a text element. -/
def textName : Text := ['w', ':', 't']
/-- The name of a table row. -/
def rowName : Text := ['w', ':', 't', 'r']
/-- The name of a table cell. -/
def cellName : Text := ['w', ':', 't', 'c']
/-- The name of a line break. -/
def breakName : Text := ['w', ':', 'b', 'r']

/-- The role of a piece of markup in a word-processing document. -/
inductive Landmark where
  | paragraphStart
  | paragraphEnd
  | textStart
  | textEnd
  | rowStart
  | rowEnd
  | cellStart
  | cellEnd
  | lineBreak
  | other
  deriving DecidableEq, Repr

namespace Landmark

/-- The role of an edge. A line break is an empty element; the other roles belong to the two sides
of elements that have content. -/
def ofEdge (edge : Edge) : Landmark :=
  match edge.side with
  | .empty => if edge.name = breakName then .lineBreak else .other
  | .opening =>
    if edge.name = paragraphName then .paragraphStart
    else if edge.name = textName then .textStart
    else if edge.name = rowName then .rowStart
    else if edge.name = cellName then .cellStart
    else .other
  | .closing =>
    if edge.name = paragraphName then .paragraphEnd
    else if edge.name = textName then .textEnd
    else if edge.name = rowName then .rowEnd
    else if edge.name = cellName then .cellEnd
    else .other

/-- The role of some markup. -/
def ofMarkup (raw : Text) : Landmark :=
  (Edge.ofMarkup? raw).elim .other ofEdge

end Landmark

end WordMerge
