import WordMerge.Markup.Entity
import WordMerge.Render.Scope
import WordMerge.Template.Node

namespace WordMerge

/-- A document part on its way. -/
structure Draft where
  /-- The XML written so far, the last piece first. -/
  pieces : List Text := []
  /-- The faults so far, the last one first. -/
  faults : List TagFault := []
  deriving DecidableEq, Repr

namespace Draft

/-- Writes XML. -/
def write (draft : Draft) (xml : Text) : Draft :=
  { draft with pieces := xml :: draft.pieces }

/-- Notes a fault. -/
def report (draft : Draft) (fault : TagFault) : Draft :=
  { draft with faults := fault :: draft.faults }

/-- The XML written so far. -/
def xml (draft : Draft) : Text :=
  draft.pieces.reverse.flatten

end Draft

/-- The XML that breaks a line inside a text element: the element ends, the line breaks, and another
element begins. -/
def lineBreakXml : Text :=
  "</w:t><w:br/><w:t xml:space=\"preserve\">".toList

/-- A line without the carriage return at its end. -/
def chomp (line : Text) : Text :=
  if line.getLast? = some '\r' then line.dropLast else line

/-- The text of a value as XML. Where line breaks are wanted, every line feed becomes one, and a
carriage return right before it, or at the end of the value, disappears. -/
def valueXml (linebreaks : Bool) (text : Text) : Text :=
  if linebreaks then
    lineBreakXml.intercalate ((text.splitOn '\n').map fun line => Entity.escape (chomp line))
  else Entity.escape text

namespace PlacedTag

/-- The XML that a value tag leaves in the given scopes. -/
def valueXml (linebreaks : Bool) (scopes : List Value) (tag : PlacedTag) : Except TagFault Text :=
  match Scope.lookup? scopes tag.name with
  | none => .error (.undefinedTag tag.name)
  | some value =>
    match value.text? with
    | none => .error (.valueTypeMismatch tag.name value.kindName)
    | some text => .ok (WordMerge.valueXml linebreaks text)

/-- The stacks of scopes in which the body of a section is evaluated, one after the other: with
every item of a list, with an object, or once as it stands. -/
def sectionScopes (scopes : List Value) (tag : PlacedTag) : Except TagFault (List (List Value)) :=
  match tag.kind, Scope.lookup? scopes tag.name with
  | .inverted, found => .ok (if found.all Value.isFalsy then [scopes] else [])
  | _, none => .error (.undefinedTag tag.name)
  | _, some .null => .ok []
  | _, some (.bool b) => .ok (if b then [scopes] else [])
  | _, some (.list items) => .ok (items.map (· :: scopes))
  | _, some (.object members) => .ok [.object members :: scopes]
  | _, some value => .error (.loopTypeMismatch tag.name value.kindName)

end PlacedTag

mutual

/-- Evaluates a node. A fault does not stop the evaluation: a failing tag leaves nothing and its
fault is noted. -/
def Node.render (linebreaks : Bool) (scopes : List Value) (draft : Draft) : Node → Draft
  | .verbatim xml => draft.write xml
  | .value tag =>
    match tag.valueXml linebreaks scopes with
    | .ok xml => draft.write xml
    | .error fault => draft.report fault
  | .block tag body =>
    match tag.sectionScopes scopes with
    | .ok turns => turns.foldl (fun draft inner => Node.renderAll linebreaks inner draft body) draft
    | .error fault => draft.report fault

/-- Evaluates nodes one after the other. -/
def Node.renderAll (linebreaks : Bool) (scopes : List Value) (draft : Draft) : List Node → Draft
  | [] => draft
  | node :: rest => Node.renderAll linebreaks scopes (Node.render linebreaks scopes draft node) rest

end

end WordMerge
