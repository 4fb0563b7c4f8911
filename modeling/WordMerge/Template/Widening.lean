import WordMerge.Template.Layout

namespace WordMerge

/-- The choices of a caller. -/
structure RenderOptions where
  /-- Whether tags alone in their paragraphs repeat the paragraphs between. -/
  paragraphLoop : Bool := true
  /-- Whether line feeds in values become line breaks. -/
  linebreaks : Bool := true
  deriving DecidableEq, Repr

/-- The section tags that belong together, as places of the opening and the closing tag. -/
structure SectionPairs where
  /-- The open sections, the innermost one first, with their names. -/
  stack : List (Nat × Text) := []
  /-- The pairs found so far, the last one first. -/
  pairs : List (Nat × Nat) := []

namespace SectionPairs

/-- Passes the piece at a place. A closing tag belongs to the innermost open section of its name,
and to none if the innermost open section has another name. -/
def step (found : SectionPairs) (place : Nat) (piece : Piece) : SectionPairs :=
  match piece with
  | .verbatim _ => found
  | .tag tag =>
    match tag.kind with
    | .value => found
    | .opening => { found with stack := (place, tag.name) :: found.stack }
    | .inverted => { found with stack := (place, tag.name) :: found.stack }
    | .closing =>
      match found.stack with
      | [] => found
      | (start, name) :: outer =>
        if name = tag.name then ⟨outer, (start, place) :: found.pairs⟩ else found

/-- Passes the pieces from a place on. -/
def scan (found : SectionPairs) (place : Nat) : List Piece → SectionPairs
  | [] => found
  | piece :: rest => (found.step place piece).scan (place + 1) rest

/-- The pairs of section tags among some pieces, ordered by opening tag. -/
def ofPieces (pieces : List Piece) : List (Nat × Nat) :=
  (scan {} 0 pieces).pairs.mergeSort fun a b => a.1 ≤ b.1

end SectionPairs

/-- A closed span by its first and its last place. -/
structure ClosedSpan where
  /-- The place of the start tag. -/
  first : Nat
  /-- The place of the end tag. -/
  last : Nat
  /-- Whether it holds one tag and no text. -/
  single : Bool
  deriving DecidableEq, Repr

namespace ClosedSpan

/-- The span with the given number, if it is closed. -/
def ofSpans? (spans : Array Span) (id : Option Nat) : Option ClosedSpan := do
  let span ← spans[← id]?
  let last ← span.stop
  return ⟨span.start, last, span.holdsSingleTag⟩

end ClosedSpan

/-- What becomes of a section. -/
inductive Widening where
  /-- The section stays as it is. -/
  | inline
  /-- The tags move around a table row. -/
  | row (span : ClosedSpan)
  /-- The tags take the places of their own paragraphs. -/
  | paragraphs (first last : ClosedSpan)
  deriving DecidableEq, Repr

namespace Widening

/-- The row that a section widens to: both tags are in it, in different cells. -/
def row? (layout : Layout) (opening closing : PlacedTag) : Option ClosedSpan :=
  if opening.row.isSome ∧ opening.row = closing.row ∧ opening.cell ≠ closing.cell then
    ClosedSpan.ofSpans? layout.rows opening.row
  else none

/-- The paragraphs that disappear with the tags of a section: each is closed and holds its tag
alone, and the first one ends before the last one starts. -/
def paragraphs? (layout : Layout) (opening closing : PlacedTag) :
    Option (ClosedSpan × ClosedSpan) :=
  if opening.paragraph = closing.paragraph then none
  else
    match ClosedSpan.ofSpans? layout.paragraphs opening.paragraph,
        ClosedSpan.ofSpans? layout.paragraphs closing.paragraph with
    | some first, some last =>
      if first.single ∧ last.single ∧ first.last < last.first then some (first, last) else none
    | _, _ => none

/-- What becomes of the section with the given tags. A row comes first. -/
def ofTags (layout : Layout) (options : RenderOptions) (opening closing : PlacedTag) : Widening :=
  match row? layout opening closing with
  | some span => .row span
  | none =>
    if options.paragraphLoop then
      match paragraphs? layout opening closing with
      | some (first, last) => .paragraphs first last
      | none => .inline
    else .inline

end Widening

/-- What happens at one place of the pieces. -/
structure Slot where
  /-- The places of the tags that move in front of it. -/
  before : List Nat := []
  /-- Whether its own piece disappears. -/
  dropped : Bool := false
  /-- Whether its own piece moves elsewhere. -/
  moved : Bool := false
  /-- The places of the tags that move behind it. -/
  after : List Nat := []
  deriving DecidableEq, Repr

/-- A new order of pieces: what happens at each place. -/
abbrev Plan := Array Slot

namespace Plan

/-- The plan that leaves everything in place. -/
def unchanged (size : Nat) : Plan :=
  Array.replicate size {}

/-- Moves the piece at `place` in front of the one at `anchor`, behind those that moved there
before. -/
def moveBefore (plan : Plan) (anchor place : Nat) : Plan :=
  (plan.modify place fun slot => { slot with moved := true }).modify anchor fun slot =>
    { slot with before := slot.before ++ [place] }

/-- Moves the piece at `place` behind the one at `anchor`, in front of those that moved there
before: inner sections come later and close first. -/
def moveAfter (plan : Plan) (anchor place : Nat) : Plan :=
  (plan.modify place fun slot => { slot with moved := true }).modify anchor fun slot =>
    { slot with after := place :: slot.after }

/-- Drops the pieces of a span. -/
def drop (plan : Plan) (span : ClosedSpan) : Plan :=
  (List.range' span.first (span.last + 1 - span.first)).foldl
    (fun plan place => plan.modify place fun slot => { slot with dropped := true }) plan

/-- Adds what becomes of the section with its tags at the given places. -/
def widen (plan : Plan) (pair : Nat × Nat) : Widening → Plan
  | .inline => plan
  | .row span => (plan.moveBefore span.first pair.1).moveAfter span.last pair.2
  | .paragraphs first last =>
    (((plan.drop first).moveBefore first.first pair.1).drop last).moveBefore last.first pair.2

/-- The places in their new order. -/
def order (plan : Plan) : List Nat :=
  (plan.toList.zipIdx).flatMap fun (slot, place) =>
    slot.before ++ (if slot.dropped || slot.moved then [] else [place]) ++ slot.after

end Plan

namespace Layout

/-- The tag at a place. -/
def tagAt? (layout : Layout) (place : Nat) : Option PlacedTag :=
  layout.pieces[place]?.bind Piece.tag?

/-- What becomes of the section with its tags at the given places. Tags in different cells of one
table row repeat the whole row; tags that each stand alone in a paragraph repeat the paragraphs
between, while their own paragraphs disappear. -/
def widening (layout : Layout) (options : RenderOptions) (pair : Nat × Nat) : Widening :=
  match layout.tagAt? pair.1, layout.tagAt? pair.2 with
  | some opening, some closing => Widening.ofTags layout options opening closing
  | _, _ => .inline

/-- The new order of the pieces of a part. -/
def plan (layout : Layout) (options : RenderOptions) : Plan :=
  (SectionPairs.ofPieces layout.pieces.toList).foldl
    (fun plan pair => plan.widen pair (layout.widening options pair))
    (Plan.unchanged layout.pieces.size)

/-- The pieces of a part with its sections widened. -/
def widened (layout : Layout) (options : RenderOptions) : List Piece :=
  (layout.plan options).order.filterMap fun place => layout.pieces[place]?

end Layout

end WordMerge
