import WordMerge.Markup.Entity
import WordMerge.Markup.Preserve
import WordMerge.Template.Layout

namespace WordMerge

/-- A tag whose closing brace has not come yet. Word processors cut a text into runs wherever its
formatting changes, so its characters may be spread over several text elements. -/
structure PendingTag where
  /-- The place kept for the tag. -/
  slot : Nat
  /-- The place of the start tag of the text element around the opening brace. -/
  textStart : Option Nat
  /-- The characters since the opening brace, the last one first. -/
  raw : Text
  /-- The paragraph around the opening brace. -/
  paragraph : Option Nat
  /-- The table row around the opening brace. -/
  row : Option Nat
  /-- The table cell around the opening brace. -/
  cell : Option Nat

/-- A reading on its way through a part. -/
structure Reading where
  /-- The pieces so far. -/
  pieces : Array Piece := #[]
  /-- The paragraphs so far. -/
  paragraphs : Array Span := #[]
  /-- The table rows so far. -/
  rows : Array Span := #[]
  /-- The faults so far, the last one first. -/
  faults : List TagFault := []
  /-- The open paragraphs by number, the innermost one first. -/
  openParagraphs : List Nat := []
  /-- The open table rows by number, the innermost one first. -/
  openRows : List Nat := []
  /-- The open table cells by number, the innermost one first. -/
  openCells : List Nat := []
  /-- The number of table cells so far. -/
  cellCount : Nat := 0
  /-- The place of the start tag of the open text element, if one is open. -/
  textStart : Option Nat := none
  /-- The tag under way, if there is one. -/
  pending : Option PendingTag := none

namespace Reading

/-- Adds a piece. -/
def push (r : Reading) (piece : Piece) : Reading :=
  { r with pieces := r.pieces.push piece }

/-- Notes a fault. -/
def report (r : Reading) (fault : TagFault) : Reading :=
  { r with faults := fault :: r.faults }

/-- Gives up the tag under way. -/
def abandon (r : Reading) : Reading :=
  match r.pending with
  | none => r
  | some tag =>
    { r with pending := none }.report
      (.unclosedTag (Text.trim (Entity.unescape tag.raw.reverse)))

/-- Opens a span at the next place. -/
def openParagraph (r : Reading) : Reading :=
  { r with
    openParagraphs := r.paragraphs.size :: r.openParagraphs
    paragraphs := r.paragraphs.push (.beginAt r.pieces.size) }

/-- Closes the innermost paragraph at the next place. Tags do not go on behind its end. -/
def closeParagraph (r : Reading) : Reading :=
  let r := r.abandon
  match r.openParagraphs with
  | [] => r
  | id :: outer =>
    { r with
      openParagraphs := outer
      paragraphs := r.paragraphs.modify id fun span => { span with stop := some r.pieces.size } }

/-- Opens a table row at the next place. -/
def openRow (r : Reading) : Reading :=
  { r with
    openRows := r.rows.size :: r.openRows
    rows := r.rows.push (.beginAt r.pieces.size) }

/-- Closes the innermost table row at the next place. -/
def closeRow (r : Reading) : Reading :=
  match r.openRows with
  | [] => r
  | id :: outer =>
    { r with
      openRows := outer
      rows := r.rows.modify id fun span => { span with stop := some r.pieces.size } }

/-- Notes what some markup does to the elements around the next place. -/
def enter (r : Reading) : Landmark → Reading
  | .paragraphStart => r.openParagraph
  | .paragraphEnd => r.closeParagraph
  | .textStart => { r with textStart := some r.pieces.size }
  | .textEnd => { r with textStart := none }
  | .rowStart => r.openRow
  | .rowEnd => r.closeRow
  | .cellStart => { r with openCells := r.cellCount :: r.openCells, cellCount := r.cellCount + 1 }
  | .cellEnd => { r with openCells := r.openCells.tail }
  | .lineBreak => r
  | .other => r

/-- Passes markup, which is copied. -/
def markup (r : Reading) (raw : Text) : Reading :=
  (r.enter (Landmark.ofMarkup raw)).push (.verbatim raw)

/-- Adds a text that stands outside tags. -/
def plain (r : Reading) (text : Text) : Reading :=
  if text.isEmpty then r
  else
    let noted := match r.openParagraphs with
      | [] => r
      | id :: _ =>
        if Text.blank text then r
        else { r with
          paragraphs := r.paragraphs.modify id fun span => { span with hasText := true } }
    noted.push (.verbatim text)

/-- Begins a tag at an opening brace and keeps a place for it. -/
def beginTag (r : Reading) : Reading :=
  { r with
    pending := some ⟨r.pieces.size, r.textStart, [], r.openParagraphs.head?, r.openRows.head?,
      r.openCells.head?⟩ }.push (.verbatim [])

/-- Makes a text element keep its white space. -/
def preserveAt (pieces : Array Piece) (place : Nat) : Array Piece :=
  pieces.modify place fun
    | .verbatim raw => .verbatim (preserveSpace raw)
    | .tag tag => .tag tag

/-- Finishes a tag at its closing brace. -/
def finishTag (r : Reading) (pending : PendingTag) : Reading :=
  let text := Entity.unescape pending.raw.reverse
  match Tag.ofText? text with
  | none => r.report (.emptyTag (Text.trim text))
  | some tag =>
    let placed := r.pieces.setIfInBounds pending.slot
      (.tag ⟨tag, pending.paragraph, pending.row, pending.cell⟩)
    { r with
      pieces := pending.textStart.elim placed (preserveAt placed)
      paragraphs := pending.paragraph.elim r.paragraphs fun id =>
        r.paragraphs.modify id fun span => { span with tags := span.tags + 1 } }

/-- Passes the character data of a text element, of which `before` stands, the last character
first, since the last tag or the start of the data. -/
def characters (r : Reading) (before : Text) : Text → Reading
  | [] => if r.pending.isNone then r.plain before.reverse else r
  | c :: rest =>
    if c = '\x7b' then
      let r := if r.pending.isNone then r.plain before.reverse else r.abandon
      r.beginTag.characters [] rest
    else if c = '\x7d' then
      match r.pending with
      | some pending => ({ r with pending := none }.finishTag pending).characters [] rest
      | none =>
        (r.report (.unopenedTag (Text.trim (Entity.unescape before.reverse)))).characters
          (c :: before) rest
    else
      match r.pending with
      | some pending =>
        { r with pending := some { pending with raw := c :: pending.raw } }.characters [] rest
      | none => r.characters (c :: before) rest

/-- Passes one item. Character data outside text elements is copied. -/
def step (r : Reading) : Item → Reading
  | .markup raw => r.markup raw
  | .text raw => if r.textStart.isSome then r.characters [] raw else r.push (.verbatim raw)

/-- The part as far as it was read. -/
def layout (r : Reading) : Layout :=
  ⟨r.pieces, r.paragraphs, r.rows, r.faults.reverse⟩

end Reading

/-- Takes a part to pieces. A tag is put where its opening brace stands, and its other characters
are taken out of the later text elements. -/
def Layout.ofPart (source : Text) : Layout :=
  ((Item.scan source).foldl Reading.step {}).abandon.layout

end WordMerge
