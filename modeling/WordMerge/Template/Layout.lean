import WordMerge.Template.Fault
import WordMerge.Template.Tag

namespace WordMerge

/-- A tag with its place in the document. -/
structure PlacedTag extends Tag where
  /-- The number of the innermost paragraph around it. -/
  paragraph : Option Nat
  /-- The number of the innermost table row around it. -/
  row : Option Nat
  /-- The number of the innermost table cell around it. -/
  cell : Option Nat
  deriving DecidableEq, Repr

/-- A piece of a template. -/
inductive Piece where
  /-- XML that goes into the document as it is. -/
  | verbatim (xml : Text)
  /-- A tag. -/
  | tag (tag : PlacedTag)
  deriving DecidableEq, Repr

/-- The tag that a piece is. -/
def Piece.tag? : Piece → Option PlacedTag
  | .verbatim _ => none
  | .tag placed => some placed

/-- The place of a paragraph or a table row among the pieces. -/
structure Span where
  /-- The place of its start tag. -/
  start : Nat
  /-- The place of its end tag, if it has one. -/
  stop : Option Nat
  /-- The number of tags that stand directly in it. -/
  tags : Nat
  /-- Whether a text other than white space stands directly in it, outside tags. -/
  hasText : Bool
  deriving DecidableEq, Repr

namespace Span

/-- A span that has just begun. -/
def beginAt (start : Nat) : Span :=
  ⟨start, none, 0, false⟩

/-- Whether the span is closed and holds one tag and no text. -/
def holdsSingleTag (span : Span) : Bool :=
  span.stop.isSome && span.tags == 1 && !span.hasText

end Span

/-- A part taken to pieces: verbatim XML and tags, with the paragraphs and table rows as spans of
pieces. -/
structure Layout where
  /-- The pieces in order. The place of a tag that came to nothing holds empty XML. -/
  pieces : Array Piece
  /-- The paragraphs by number. -/
  paragraphs : Array Span
  /-- The table rows by number. -/
  rows : Array Span
  /-- What is wrong with braces and names, in the order in which it was found. -/
  faults : List TagFault
  deriving DecidableEq, Repr

end WordMerge
