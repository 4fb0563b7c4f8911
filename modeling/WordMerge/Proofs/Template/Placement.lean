import Mathlib.Data.List.Forall2
import WordMerge.Proofs.Markup.Enclosure
import WordMerge.Proofs.Markup.TextElement
import WordMerge.Proofs.Template.Passing

namespace WordMerge

/-- A property of character data that its stretches in front of an opening brace and behind a
closing brace inherit. -/
structure Text.Divides (Q : Text → Prop) : Prop where
  nil : Q []
  front : ∀ a b, Q (a ++ '\x7b' :: b) → Q a
  back : ∀ a b, Q (a ++ '\x7d' :: b) → Q b

theorem Text.divides_true : Text.Divides fun _ => True :=
  ⟨trivial, fun _ _ _ => trivial, fun _ _ _ => trivial⟩

namespace Piece

/-- The edges of the markup in a piece. A tag has none. -/
def edges : Piece → List Edge
  | .verbatim xml => Edge.scan xml
  | .tag _ => []

/-- The edges of some pieces, place by place. -/
def edgeRows (pieces : Array Piece) : List (List Edge) :=
  pieces.toList.map edges

/-- Whether the start tag of a text element stands at a place. -/
def StartsText (pieces : Array Piece) (place : Nat) : Prop :=
  ∃ raw, pieces[place]? = some (.verbatim raw) ∧ Edge.TextTag raw

@[simp] theorem edgeRows_push (pieces : Array Piece) (piece : Piece) :
    edgeRows (pieces.push piece) = edgeRows pieces ++ [piece.edges] := by
  simp [edgeRows]

@[simp] theorem length_edgeRows (pieces : Array Piece) :
    (edgeRows pieces).length = pieces.size := by
  simp [edgeRows]

theorem edgeRows_congr {a b : Array Piece}
    (same : ∀ place : Nat, a[place]?.map edges = b[place]?.map edges) :
    edgeRows a = edgeRows b := by
  apply List.ext_getElem?
  intro place
  simpa [edgeRows] using same place

theorem getElem?_push_of_some {pieces : Array Piece} {place : Nat} {found : Piece}
    (present : pieces[place]? = some found) (piece : Piece) :
    (pieces.push piece)[place]? = some found := by
  obtain ⟨inside, _⟩ := Array.getElem?_eq_some_iff.mp present
  rw [Array.getElem?_push, if_neg (by omega), present]

theorem StartsText.push {pieces : Array Piece} {place : Nat} (starts : StartsText pieces place)
    (piece : Piece) : StartsText (pieces.push piece) place := by
  obtain ⟨raw, found, tag⟩ := starts
  exact ⟨raw, getElem?_push_of_some found piece, tag⟩

/-- Pieces behind which the given elements are open: markup has its end, character data has the
property `Q`, and tags stand in text elements. -/
structure Laid (Q : Text → Prop) (pieces : Array Piece) (opened : List Text) : Prop where
  walked : Edge.walk [] (edgeRows pieces).flatten = some opened
  verbatim : ∀ (place : Nat) xml, pieces[place]? = some (.verbatim xml) →
    Item.Cut xml ∨ '<' ∉ xml ∧ Q xml
  tags : ∀ (place : Nat) tag, pieces[place]? = some (.tag tag) →
    (Edge.openedAt (edgeRows pieces) place).head? = some textName

/-- XML that fits the open elements can be added. -/
theorem Laid.push {Q : Text → Prop} {pieces : Array Piece} {opened after : List Text}
    (laid : Laid Q pieces opened) {xml : Text}
    (passed : Edge.walk opened (Edge.scan xml) = some after)
    (fits : Item.Cut xml ∨ '<' ∉ xml ∧ Q xml) : Laid Q (pieces.push (.verbatim xml)) after := by
  refine ⟨?_, fun place raw found => ?_, fun place tag found => ?_⟩
  · rw [edgeRows_push, List.flatten_append, Edge.walk_append_eq_some]
    exact ⟨opened, laid.walked, by simpa [edges] using passed⟩
  · rw [Array.getElem?_push] at found
    split at found
    · cases found
      exact fits
    · exact laid.verbatim place raw found
  · rw [Array.getElem?_push] at found
    split at found
    · cases found
    · obtain ⟨inside, _⟩ := Array.getElem?_eq_some_iff.mp found
      rw [edgeRows_push, Edge.openedAt_append (by simp; omega)]
      exact laid.tags place tag found

end Piece

namespace Reading

open Piece

/-- The text elements around the next place and around the opening brace of the tag under way begin
where the reading has noted. -/
structure TextStarts (pieces : Array Piece) (textStart : Option Nat)
    (pending : Option PendingTag) : Prop where
  around : ∀ place, textStart = some place → StartsText pieces place
  brace : ∀ tag, pending = some tag → ∀ place, tag.textStart = some place →
    StartsText pieces place

/-- The reading is inside a text element where one is open, and so is the place kept for the tag
under way. -/
structure TextPlaced (pieces : Array Piece) (textStart : Option Nat) (pending : Option PendingTag)
    (opened : List Text) : Prop where
  starts : TextStarts pieces textStart pending
  inText : textStart.isSome = true ↔ opened.head? = some textName
  slot : ∀ tag, pending = some tag → pieces[tag.slot]? = some (.verbatim []) ∧
    (Edge.openedAt (edgeRows pieces) tag.slot).head? = some textName

/-- The paragraphs so far: those still open begin where their spans do, and the span of every closed
one encloses its content. -/
structure SpansPlaced (rows : List (List Edge)) (spans : Array Span) (numbers : List Nat)
    (opened : List Text) : Prop where
  begun : List.Forall₂ (fun (number : Nat) outer => ∃ span, spans[number]? = some span ∧
    Edge.Begins rows outer span.start) numbers (Edge.aroundParagraphs opened)
  closed : ∀ (number : Nat) span last, spans[number]? = some span → span.stop = some last →
    Edge.Encloses rows span.start last

/-- A reading behind which the given elements are open, with everything in its place. -/
structure InPlace (Q : Text → Prop) (r : Reading) (opened : List Text) : Prop where
  laid : Laid Q r.pieces opened
  text : TextPlaced r.pieces r.textStart r.pending opened
  spans : SpansPlaced (edgeRows r.pieces) r.paragraphs r.openParagraphs opened

theorem TextPlaced.slot_push {pieces : Array Piece} {textStart : Option Nat}
    {pending : Option PendingTag} {opened : List Text}
    (placed : TextPlaced pieces textStart pending opened) {tag : PendingTag}
    (here : pending = some tag) (piece : Piece) :
    (pieces.push piece)[tag.slot]? = some (.verbatim []) ∧
      (Edge.openedAt (edgeRows (pieces.push piece)) tag.slot).head? = some textName := by
  obtain ⟨empty, inside⟩ := placed.slot tag here
  obtain ⟨bound, _⟩ := Array.getElem?_eq_some_iff.mp empty
  refine ⟨getElem?_push_of_some empty piece, ?_⟩
  rw [edgeRows_push, Edge.openedAt_append (by simp; omega)]
  exact inside

theorem TextStarts.push {pieces : Array Piece} {textStart : Option Nat}
    {pending : Option PendingTag} (starts : TextStarts pieces textStart pending) (piece : Piece) :
    TextStarts (pieces.push piece) textStart pending :=
  ⟨fun place found => (starts.around place found).push piece,
    fun tag found place around => (starts.brace tag found place around).push piece⟩

/-- The start tag of a text element is noted at its place. -/
theorem TextStarts.enter {pieces : Array Piece} {textStart : Option Nat}
    {pending : Option PendingTag} (starts : TextStarts pieces textStart pending) {raw : Text}
    (tag : Edge.TextTag raw) :
    TextStarts (pieces.push (.verbatim raw)) (some pieces.size) pending := by
  refine ⟨fun place here => ?_, (starts.push _).brace⟩
  cases here
  exact ⟨raw, Array.getElem?_push_size, tag⟩

theorem TextStarts.leave {pieces : Array Piece} {textStart : Option Nat}
    {pending : Option PendingTag} (starts : TextStarts pieces textStart pending) :
    TextStarts pieces none pending :=
  ⟨nofun, starts.brace⟩

theorem TextStarts.forget {pieces : Array Piece} {textStart : Option Nat}
    {pending : Option PendingTag} (starts : TextStarts pieces textStart pending) :
    TextStarts pieces textStart none :=
  ⟨starts.around, nofun⟩

/-- The next place is inside a text element or outside of all as before. -/
theorem TextPlaced.push {pieces : Array Piece} {textStart : Option Nat}
    {pending : Option PendingTag} {opened after : List Text}
    (placed : TextPlaced pieces textStart pending opened) (piece : Piece)
    (same : after.head? = some textName ↔ opened.head? = some textName) :
    TextPlaced (pieces.push piece) textStart pending after :=
  ⟨placed.starts.push piece, by rw [same, placed.inText],
    fun _ found => placed.slot_push found piece⟩

theorem TextPlaced.forget {pieces : Array Piece} {textStart : Option Nat}
    {pending : Option PendingTag} {opened : List Text}
    (placed : TextPlaced pieces textStart pending opened) :
    TextPlaced pieces textStart none opened :=
  ⟨placed.starts.forget, placed.inText, nofun⟩

/-- What is said about the spans does not depend on their tags and texts. -/
theorem SpansPlaced.modify {rows : List (List Edge)} {spans : Array Span} {numbers : List Nat}
    {opened : List Text} (placed : SpansPlaced rows spans numbers opened) (number : Nat)
    (change : Span → Span) (start : ∀ span, (change span).start = span.start)
    (stop : ∀ span, (change span).stop = span.stop) :
    SpansPlaced rows (spans.modify number change) numbers opened := by
  refine ⟨placed.begun.imp ?_, fun other span last found closed => ?_⟩
  · rintro other outer ⟨span, found, begins⟩
    rw [Array.getElem?_modify, found]
    split
    · exact ⟨_, rfl, by rwa [start]⟩
    · exact ⟨span, rfl, begins⟩
  · rw [Array.getElem?_modify] at found
    split at found
    · obtain ⟨old, there, rfl⟩ := Option.map_eq_some_iff.mp found
      rw [start]
      rw [stop] at closed
      exact placed.closed other old last there closed
    · exact placed.closed other span last found closed

theorem forall₂_of_mem {A B : Type} {R S : A → B → Prop} {as : List A} {bs : List B}
    (related : List.Forall₂ R as bs) (stronger : ∀ a, ∀ b ∈ bs, R a b → S a b) :
    List.Forall₂ S as bs := by
  induction related with
  | nil => exact .nil
  | cons here _ ih =>
    exact .cons (stronger _ _ (by simp) here)
      (ih fun a b member => stronger a b (by simp [member]))

/-- What was open before a piece and is still open behind it goes on. -/
theorem begun_push {rows : List (List Edge)} {spans : Array Span} {numbers : List Nat}
    {after : List Text} {around : List (List Text)}
    (begun : List.Forall₂ (fun (number : Nat) outer => ∃ span, spans[number]? = some span ∧
      Edge.Begins rows outer span.start) numbers around)
    {row : List Edge} (walked : Edge.walk [] (rows ++ [row]).flatten = some after)
    (inside : ∀ outer ∈ around, outer.length < after.length) :
    List.Forall₂ (fun (number : Nat) outer => ∃ span, spans[number]? = some span ∧
      Edge.Begins (rows ++ [row]) outer span.start) numbers around := by
  refine forall₂_of_mem begun ?_
  rintro number outer member ⟨span, found, begins⟩
  exact ⟨span, found, begins.push walked (inside outer member)⟩

/-- A piece that begins and ends no paragraph leaves the paragraphs as they are. -/
theorem SpansPlaced.push {rows : List (List Edge)} {spans : Array Span} {numbers : List Nat}
    {opened after : List Text} (placed : SpansPlaced rows spans numbers opened) {row : List Edge}
    (walked : Edge.walk [] (rows ++ [row]).flatten = some after)
    (same : Edge.aroundParagraphs after = Edge.aroundParagraphs opened) :
    SpansPlaced (rows ++ [row]) spans numbers after := by
  refine ⟨?_, fun number span last found closed =>
    (placed.closed number span last found closed).append _⟩
  rw [same]
  refine begun_push placed.begun walked fun outer member => ?_
  rw [← same] at member
  exact Edge.length_lt_of_mem_aroundParagraphs member

/-- The span of a paragraph begins with its element. -/
theorem SpansPlaced.begin {rows : List (List Edge)} {spans : Array Span} {numbers : List Nat}
    {opened : List Text} (placed : SpansPlaced rows spans numbers opened) {row : List Edge}
    (before : Edge.walk [] rows.flatten = some opened)
    (walked : Edge.walk [] (rows ++ [row]).flatten = some (paragraphName :: opened)) :
    SpansPlaced (rows ++ [row]) (spans.push (.beginAt rows.length)) (spans.size :: numbers)
      (paragraphName :: opened) := by
  refine ⟨?_, fun number span last found closed => ?_⟩
  · rw [Edge.aroundParagraphs_cons_paragraph]
    refine .cons ⟨_, Array.getElem?_push_size, Edge.Begins.start before walked⟩ ?_
    refine List.Forall₂.imp ?_ (begun_push placed.begun walked fun outer member => ?_)
    · rintro number outer ⟨span, found, begins⟩
      obtain ⟨inside, _⟩ := Array.getElem?_eq_some_iff.mp found
      exact ⟨span, by rw [Array.getElem?_push, if_neg (by omega), found], begins⟩
    · have := Edge.length_lt_of_mem_aroundParagraphs member
      rw [List.length_cons]
      omega
  · rw [Array.getElem?_push] at found
    split at found
    · cases found
      cases closed
    · exact (placed.closed number span last found closed).append _

/-- The span of a paragraph is closed with its element, and encloses it. -/
theorem SpansPlaced.close {rows : List (List Edge)} {spans : Array Span} {numbers : List Nat}
    {after : List Text} (placed : SpansPlaced rows spans numbers (paragraphName :: after))
    {row : List Edge} (walked : Edge.walk [] (rows ++ [row]).flatten = some after) :
    ∃ number rest, numbers = number :: rest ∧
      SpansPlaced (rows ++ [row])
        (spans.modify number fun span => { span with stop := some rows.length }) rest after := by
  obtain ⟨begun, closed⟩ := placed
  rw [Edge.aroundParagraphs_cons_paragraph] at begun
  cases begun with
  | @cons number _ rest _ here begun =>
    obtain ⟨ending, there, begins⟩ := here
    refine ⟨number, rest, rfl, ?_, fun other span last found stop => ?_⟩
    · have kept := begun_push begun walked fun outer member =>
        Edge.length_lt_of_mem_aroundParagraphs member
      refine kept.imp ?_
      rintro other outer ⟨span, found, begins⟩
      rw [Array.getElem?_modify, found]
      split
      · exact ⟨_, rfl, begins⟩
      · exact ⟨span, rfl, begins⟩
    · rw [Array.getElem?_modify] at found
      split at found
      · next same =>
        subst same
        rw [there] at found
        cases found
        cases stop
        exact begins.close walked
      · exact (closed other span last found stop).append _

/-- What the reading notes of markup other than paragraphs and text elements does not matter to the
places. -/
theorem enter_other {r : Reading} {landmark : Landmark}
    (other : landmark ∉ [.paragraphStart, .paragraphEnd, .textStart, .textEnd]) :
    (r.enter landmark).pieces = r.pieces ∧ (r.enter landmark).textStart = r.textStart ∧
      (r.enter landmark).pending = r.pending ∧ (r.enter landmark).paragraphs = r.paragraphs ∧
      (r.enter landmark).openParagraphs = r.openParagraphs := by
  cases landmark <;> simp_all [enter, openRow, closeRow]
  split <;> simp

@[simp] theorem abandon_pieces (r : Reading) : r.abandon.pieces = r.pieces := by
  unfold abandon
  split <;> rfl

@[simp] theorem abandon_textStart (r : Reading) : r.abandon.textStart = r.textStart := by
  unfold abandon
  split <;> rfl

@[simp] theorem abandon_pending (r : Reading) : r.abandon.pending = none := by
  unfold abandon
  split
  · assumption
  · rfl

@[simp] theorem abandon_paragraphs (r : Reading) : r.abandon.paragraphs = r.paragraphs := by
  unfold abandon
  split <;> rfl

@[simp] theorem abandon_openParagraphs (r : Reading) :
    r.abandon.openParagraphs = r.openParagraphs := by
  unfold abandon
  split <;> rfl

theorem push_closeParagraph {r : Reading} {number : Nat} {rest : List Nat}
    (inner : r.openParagraphs = number :: rest) (piece : Piece) :
    r.closeParagraph.push piece =
      { r.abandon with
        pieces := r.pieces.push piece
        openParagraphs := rest
        paragraphs := r.paragraphs.modify number fun span =>
          { span with stop := some r.pieces.size } } := by
  unfold closeParagraph
  simp [inner, push]

/-- Passing markup keeps everything in place. -/
theorem InPlace.markup {Q : Text → Prop} {r : Reading} {opened after : List Text} {raw : Text}
    (placed : InPlace Q r opened) (cut : Item.Cut raw)
    (passed : Edge.walk opened (Edge.scan raw) = some after) : InPlace Q (r.markup raw) after := by
  obtain ⟨laid, text, spans⟩ := placed
  have grown : Laid Q (r.pieces.push (.verbatim raw)) after := laid.push passed (.inl cut)
  have walked : Edge.walk [] (edgeRows r.pieces ++ [Edge.scan raw]).flatten = some after := by
    simpa [edges] using grown.walked
  have rows : edgeRows (r.pieces.push (.verbatim raw)) = edgeRows r.pieces ++ [Edge.scan raw] :=
    edgeRows_push _ _
  have innermost := Edge.walk_innermost laid.walked (by simp [TextInnermost])
  rw [Edge.scan_of_cut cut] at passed
  unfold Reading.markup Landmark.ofMarkup
  cases edge : Edge.ofMarkup? raw with
  | none =>
    rw [edge] at passed
    cases passed
    exact ⟨grown, text.push _ Iff.rfl, rows ▸ spans.push walked rfl⟩
  | some edge =>
    rw [edge] at passed
    obtain ⟨_, step, passed⟩ := Option.bind_eq_some_iff.mp passed
    cases passed
    rw [Option.elim_some]
    -- The start and the end of a paragraph, the start and the end of a text, and any other element.
    rcases Edge.passInText_cases step innermost with ⟨role, rfl, outside⟩ | ⟨role, rfl, outside⟩ |
      ⟨role, rfl, rfl⟩ | ⟨role, rfl, outside⟩ | ⟨role, around, outside, still⟩
    · rw [role]
      refine ⟨grown, text.push _ ?_, ?_⟩
      · simpa [paragraphName, textName] using outside
      · have begun := spans.begin laid.walked walked
        rw [length_edgeRows] at begun
        exact rows ▸ begun
    · rw [role]
      obtain ⟨number, rest, inner, closed⟩ := spans.close walked
      rw [enter, push_closeParagraph inner]
      refine ⟨grown, ?_, ?_⟩
      · rw [abandon_textStart, abandon_pending]
        exact text.forget.push _ (by simpa [paragraphName, textName] using outside)
      · rw [length_edgeRows] at closed
        exact rows ▸ closed
    · rw [role]
      refine ⟨grown, ⟨text.starts.enter ⟨cut, edge⟩, by simp [enter, push], ?_⟩, ?_⟩
      · exact fun tag pending => text.slot_push pending _
      · exact rows ▸ spans.push walked (Edge.aroundParagraphs_cons_other (by decide) opened)
    · rw [role]
      refine ⟨grown, ⟨(text.starts.push _).leave, by simpa [enter, push] using outside, ?_⟩, ?_⟩
      · exact fun tag pending => text.slot_push pending _
      · exact rows ▸ spans.push walked
          (Edge.aroundParagraphs_cons_other (by decide) after).symm
    · obtain ⟨pieces, start, pending, paragraphs, numbers⟩ := enter_other (r := r) role
      refine ⟨?_, ?_, ?_⟩ <;> simp only [push, pieces, start, pending, paragraphs, numbers]
      · exact grown
      · exact text.push _ (by simp [outside, still])
      · exact rows ▸ spans.push walked around

theorem InPlace.verbatim {Q : Text → Prop} {r : Reading} {opened : List Text} {raw : Text}
    (placed : InPlace Q r opened) (plain : '<' ∉ raw) (fits : Q raw) :
    InPlace Q (r.push (.verbatim raw)) opened := by
  obtain ⟨laid, text, spans⟩ := placed
  have passed : Edge.walk opened (Edge.scan raw) = some opened := by
    rw [Edge.scan_of_plain plain, Edge.walk_nil]
  have grown : Laid Q (r.pieces.push (.verbatim raw)) opened :=
    laid.push passed (.inr ⟨plain, fits⟩)
  have walked : Edge.walk [] (edgeRows r.pieces ++ [Edge.scan raw]).flatten = some opened := by
    simpa [edges] using grown.walked
  refine ⟨grown, text.push _ Iff.rfl, ?_⟩
  have rows : edgeRows (r.pieces.push (.verbatim raw)) = edgeRows r.pieces ++ [Edge.scan raw] :=
    edgeRows_push _ _
  exact rows ▸ spans.push walked rfl

/-- A text outside tags is copied unless it is empty, and may be noted for its paragraph. -/
theorem plain_cases (r : Reading) (text : Text) :
    text = [] ∧ r.plain text = r ∨ r.plain text = r.push (.verbatim text) ∨
      ∃ number, r.plain text =
        { r with
          paragraphs := r.paragraphs.modify number fun span =>
            { span with hasText := true } }.push (.verbatim text) := by
  unfold Reading.plain
  split
  · next empty => exact .inl ⟨List.isEmpty_iff.mp empty, rfl⟩
  · dsimp only
    split
    · exact .inr (.inl rfl)
    · next number _ _ =>
      split
      · exact .inr (.inl rfl)
      · exact .inr (.inr ⟨number, rfl⟩)

/-- Passing characters outside tags keeps everything in place. -/
theorem InPlace.plain {Q : Text → Prop} {r : Reading} {opened : List Text} {raw : Text}
    (placed : InPlace Q r opened) (plain : '<' ∉ raw) (fits : Q raw) :
    InPlace Q (r.plain raw) opened := by
  rcases r.plain_cases raw with ⟨_, same⟩ | same | ⟨number, same⟩
  · rw [same]
    exact placed
  · rw [same]
    exact placed.verbatim plain fits
  · rw [same]
    have noted := placed.spans.modify number (fun span => { span with hasText := true })
      (fun _ => rfl) (fun _ => rfl)
    exact InPlace.verbatim ⟨placed.laid, placed.text, noted⟩ plain fits

theorem InPlace.report {Q : Text → Prop} {r : Reading} {opened : List Text}
    (placed : InPlace Q r opened) (fault : TagFault) : InPlace Q (r.report fault) opened :=
  ⟨placed.laid, placed.text, placed.spans⟩

/-- A tag that is given up leaves its place empty. -/
theorem InPlace.forget {Q : Text → Prop} {r : Reading} {opened : List Text}
    (placed : InPlace Q r opened) : InPlace Q { r with pending := none } opened :=
  ⟨placed.laid, placed.text.forget, placed.spans⟩

theorem InPlace.abandon {Q : Text → Prop} {r : Reading} {opened : List Text}
    (placed : InPlace Q r opened) : InPlace Q r.abandon opened := by
  unfold Reading.abandon
  split
  · exact placed
  · exact placed.forget.report _

/-- A character of the tag under way moves nothing. -/
theorem InPlace.extend {Q : Text → Prop} {r : Reading} {opened : List Text} {tag : PendingTag}
    (placed : InPlace Q r opened) (pending : r.pending = some tag) (raw : Text) :
    InPlace Q { r with pending := some { tag with raw := raw } } opened := by
  refine ⟨placed.laid, ⟨⟨placed.text.starts.around, ?_⟩, placed.text.inText, ?_⟩, placed.spans⟩
  · intro found same
    cases same
    exact placed.text.starts.brace tag pending
  · intro found same
    cases same
    exact placed.text.slot tag pending

/-- The place kept for a tag is inside its text element. -/
theorem InPlace.beginTag {Q : Text → Prop} {r : Reading} {opened : List Text} (nil : Q [])
    (placed : InPlace Q r opened) (inside : opened.head? = some textName) :
    InPlace Q r.beginTag opened := by
  have grown : InPlace Q (r.push (.verbatim [])) opened := placed.verbatim (by simp) nil
  obtain ⟨laid, text, spans⟩ := grown
  refine ⟨laid, ⟨⟨text.starts.around, ?_⟩, text.inText, ?_⟩, spans⟩
  · intro tag same
    cases same
    exact text.starts.around
  · intro tag same
    cases same
    refine ⟨Array.getElem?_push_size, ?_⟩
    have rows : edgeRows r.beginTag.pieces = edgeRows r.pieces ++ [edges (.verbatim [])] :=
      edgeRows_push _ _
    dsimp only
    rw [rows, Edge.openedAt_append (by simp), ← length_edgeRows,
      Edge.openedAt_length placed.laid.walked]
    exact inside

/-- The pieces when a tag is finished. -/
def finished (pieces : Array Piece) (pending : PendingTag) (tag : PlacedTag) : Array Piece :=
  let placed := pieces.setIfInBounds pending.slot (.tag tag)
  pending.textStart.elim placed (preserveAt placed)

theorem size_finished (pieces : Array Piece) (pending : PendingTag) (tag : PlacedTag) :
    (finished pieces pending tag).size = pieces.size := by
  unfold finished
  cases pending.textStart <;> simp [preserveAt]

/-- Finishing a tag puts it into the place kept for it, and no other tag changes. -/
theorem tag?_finished (pieces : Array Piece) (pending : PendingTag) (tag : PlacedTag) :
    (finished pieces pending tag).toList.map Piece.tag? =
      (pieces.toList.map Piece.tag?).set pending.slot (some tag) := by
  have placed : (pieces.setIfInBounds pending.slot (.tag tag)).toList.map Piece.tag? =
      (pieces.toList.map Piece.tag?).set pending.slot (some tag) := by
    rw [Array.toList_setIfInBounds, List.map_set]
    rfl
  unfold finished
  cases pending.textStart with
  | none => exact placed
  | some start =>
    refine Eq.trans (List.ext_getElem? fun place => ?_) placed
    rw [Option.elim_some, preserveAt, Array.toList_modify, List.getElem?_map, List.getElem?_map,
      List.getElem?_modify]
    cases (pieces.setIfInBounds pending.slot (.tag tag)).toList[place]? with
    | none => rfl
    | some piece => cases piece <;> simp [Piece.tag?, apply_ite]

/-- A finished tag stands in its own place; the others stay where they are. -/
theorem tag_of_finished {pieces : Array Piece} {pending : PendingTag} {xml : Text}
    (slot : pieces[pending.slot]? = some (.verbatim xml)) (tag : PlacedTag) {place : Nat}
    {other : PlacedTag} (found : (finished pieces pending tag)[place]? = some (.tag other)) :
    place = pending.slot ∧ other = tag ∨
      place ≠ pending.slot ∧ pieces[place]? = some (.tag other) := by
  obtain ⟨inside, _⟩ := Array.getElem?_eq_some_iff.mp slot
  have view := congrArg (·[place]?) (tag?_finished pieces pending tag)
  simp only [List.getElem?_map, Array.getElem?_toList, found, List.getElem?_set, List.length_map,
    Array.length_toList, inside, if_true, Option.map_some, Piece.tag?] at view
  split at view
  · next own =>
    cases view
    exact .inl ⟨own.symm, rfl⟩
  · next apart =>
    obtain ⟨piece, there, same⟩ := Option.map_eq_some_iff.mp view.symm
    cases piece with
    | verbatim raw => cases same
    | tag old =>
      cases same
      exact .inr ⟨Ne.symm apart, there⟩

/-- What finishing a tag does to a place: the tag comes to the place kept for it, the start tag of
its text element may get an attribute, and nothing else changes. -/
theorem finished_cases {pieces : Array Piece} {pending : PendingTag}
    (slot : pieces[pending.slot]? = some (.verbatim []))
    (start : ∀ place, pending.textStart = some place → StartsText pieces place) (tag : PlacedTag)
    (place : Nat) :
    (place = pending.slot ∧ (finished pieces pending tag)[place]? = some (.tag tag)) ∨
    (∃ raw, Edge.TextTag raw ∧ pieces[place]? = some (.verbatim raw) ∧
      (finished pieces pending tag)[place]? = some (.verbatim (preserveSpace raw))) ∨
    (place ≠ pending.slot ∧ (finished pieces pending tag)[place]? = pieces[place]?) := by
  obtain ⟨bound, _⟩ := Array.getElem?_eq_some_iff.mp slot
  have placed : (pieces.setIfInBounds pending.slot (.tag tag))[place]? =
      if pending.slot = place then some (.tag tag) else pieces[place]? := by
    rw [Array.getElem?_setIfInBounds]
    simp only [bound, if_true]
  unfold finished
  dsimp only
  by_cases here : place = pending.slot
  · refine .inl ⟨here, ?_⟩
    rw [if_pos here.symm] at placed
    cases around : pending.textStart with
    | none => exact placed
    | some other =>
      rw [Option.elim_some, preserveAt, Array.getElem?_modify, placed]
      split <;> rfl
  · rw [if_neg fun same => here same.symm] at placed
    cases around : pending.textStart with
    | none => exact .inr (.inr ⟨here, placed⟩)
    | some other =>
      rw [Option.elim_some, preserveAt, Array.getElem?_modify, placed]
      split
      · next same =>
        subst same
        obtain ⟨raw, found, starts⟩ := start other around
        exact .inr (.inl ⟨raw, starts, found, by rw [found]; rfl⟩)
      · exact .inr (.inr ⟨here, rfl⟩)

/-- Finishing a tag changes no element. -/
theorem edgeRows_finished {pieces : Array Piece} {pending : PendingTag}
    (slot : pieces[pending.slot]? = some (.verbatim []))
    (start : ∀ place, pending.textStart = some place → StartsText pieces place)
    (tag : PlacedTag) : edgeRows (finished pieces pending tag) = edgeRows pieces := by
  refine edgeRows_congr fun place => ?_
  rcases finished_cases slot start tag place with
    ⟨rfl, here⟩ | ⟨raw, starts, before, here⟩ | ⟨_, here⟩
  · rw [here, slot]
    simp [edges, Edge.scan_of_plain]
  · rw [here, before, Option.map_some, Option.map_some, edges, edges, starts.scan_eq,
      starts.preserve.scan_eq]
  · rw [here]

theorem StartsText.finished {pieces : Array Piece} {pending : PendingTag} {place : Nat}
    (slot : pieces[pending.slot]? = some (.verbatim []))
    (start : ∀ place, pending.textStart = some place → StartsText pieces place) (tag : PlacedTag)
    (starts : StartsText pieces place) :
    StartsText (Reading.finished pieces pending tag) place := by
  obtain ⟨raw, found, textTag⟩ := starts
  rcases finished_cases slot start tag place with
    ⟨rfl, _⟩ | ⟨other, starts, before, here⟩ | ⟨_, here⟩
  · rw [slot] at found
    cases found
    cases textTag.cut.opened
  · exact ⟨_, here, starts.preserve⟩
  · exact ⟨raw, here.trans found, textTag⟩

/-- The paragraphs when a tag is finished: the one that it notes counts a tag more. -/
def counting (spans : Array Span) (own : Option Nat) : Array Span :=
  own.elim spans fun number => spans.modify number fun span => { span with tags := span.tags + 1 }

theorem getElem?_counting (spans : Array Span) (own : Option Nat) (number : Nat) :
    (counting spans own)[number]? = spans[number]?.map fun span =>
      if own = some number then { span with tags := span.tags + 1 } else span := by
  cases own with
  | none => simp [counting]
  | some id =>
    rw [counting, Option.elim_some, Array.getElem?_modify]
    split
    · next same => simp [same]
    · next other => simp [other]

@[simp] theorem size_counting (spans : Array Span) (own : Option Nat) :
    (counting spans own).size = spans.size := by
  cases own <;> simp [counting]

/-- At its closing brace a tag is finished if its text spells one, and counted for its paragraph;
otherwise there is a fault. -/
theorem finishTag_cases (r : Reading) (pending : PendingTag) :
    (∃ fault, r.finishTag pending = r.report fault) ∨
      ∃ tag : PlacedTag, Tag.ofText? (Entity.unescape pending.raw.reverse) = some tag.toTag ∧
        (tag.paragraph = pending.paragraph ∧ tag.row = pending.row) ∧
        r.finishTag pending = { r with
          pieces := finished r.pieces pending tag
          paragraphs := counting r.paragraphs pending.paragraph } := by
  unfold Reading.finishTag
  dsimp only
  split
  · exact .inl ⟨_, rfl⟩
  · next tag read =>
    exact .inr ⟨⟨tag, pending.paragraph, pending.row, pending.cell⟩, read, ⟨rfl, rfl⟩, rfl⟩

/-- A finished tag stands inside its text element. -/
theorem InPlace.finishTag {Q : Text → Prop} {r : Reading} {opened : List Text}
    {pending : PendingTag} (placed : InPlace Q r opened) (here : r.pending = some pending) :
    InPlace Q ({ r with pending := none }.finishTag pending) opened := by
  obtain ⟨slot, inside⟩ := placed.text.slot pending here
  have start := placed.text.starts.brace pending here
  rcases { r with pending := none }.finishTag_cases pending with
    ⟨fault, same⟩ | ⟨placedTag, _, _, same⟩
  · rw [same]
    exact placed.forget.report fault
  · rw [same]
    have rows := edgeRows_finished slot start placedTag
    refine ⟨⟨?_, fun place xml found => ?_, fun place tag found => ?_⟩,
      ⟨⟨fun place around => ?_, nofun⟩, placed.text.inText, nofun⟩, ?_⟩
    · exact rows ▸ placed.laid.walked
    · rcases finished_cases slot start placedTag place with
        ⟨_, new⟩ | ⟨raw, starts, _, new⟩ | ⟨_, new⟩
      · cases new.symm.trans found
      · cases new.symm.trans found
        exact .inl starts.preserve.cut
      · exact placed.laid.verbatim place xml (new.symm.trans found)
    · rcases tag_of_finished slot placedTag found with ⟨rfl, _⟩ | ⟨_, old⟩
      · exact rows ▸ inside
      · exact rows ▸ placed.laid.tags place tag old
    · exact StartsText.finished slot start placedTag (placed.text.starts.around place around)
    · have kept := placed.spans
      rw [← rows] at kept
      cases pending.paragraph with
      | none => exact kept
      | some number =>
        exact kept.modify number (fun span => { span with tags := span.tags + 1 }) (fun _ => rfl)
          (fun _ => rfl)

/-- Character data of a text element keeps everything in its place. `front` is what the data began
with before a tag that is still under way. -/
theorem InPlace.passes {Q : Text → Prop} (divides : Text.Divides Q) {r final : Reading}
    {opened : List Text} (placed : InPlace Q r opened) (inside : opened.head? = some textName)
    {front before rest : Text} (passes : r.Passes before rest final) (plain : '<' ∉ before)
    (plainRest : '<' ∉ rest) (fits : Q (front ++ before.reverse ++ rest))
    (outside : r.pending = none → front = []) : InPlace Q final opened := by
  -- `before` joins `front` where a tag begins; behind the tag nothing is left of either
  induction passes generalizing front with
  | settle free =>
    rw [outside free, List.nil_append, List.append_nil] at fits
    exact placed.plain (by simpa using plain) fits
  | wait under => exact placed
  | @first r before rest final free _ ih =>
    rw [List.mem_cons, not_or] at plainRest
    have settled : Q before.reverse := by
      rw [outside free, List.nil_append] at fits
      exact divides.front _ _ fits
    have passed : Q ((front ++ before.reverse ++ ['\x7b']) ++ ([] : Text).reverse ++ rest) := by
      simpa using fits
    have begun := (placed.plain (by simpa using plain) settled).beginTag divides.nil inside
    exact ih begun (by simp) plainRest.2 passed nofun
  | @again r before rest final tag under _ ih =>
    rw [List.mem_cons, not_or] at plainRest
    have passed : Q ((front ++ before.reverse ++ ['\x7b']) ++ ([] : Text).reverse ++ rest) := by
      simpa using fits
    exact ih (placed.abandon.beginTag divides.nil inside) (by simp) plainRest.2 passed nofun
  | @finish r before rest final tag under _ ih =>
    rw [List.mem_cons, not_or] at plainRest
    have passed : Q ([] ++ ([] : Text).reverse ++ rest) := divides.back _ _ fits
    exact ih (placed.finishTag under) (by simp) plainRest.2 passed (fun _ => rfl)
  | @unopened r before rest final free _ ih =>
    rw [List.mem_cons, not_or] at plainRest
    have passed : Q (front ++ ('\x7d' :: before).reverse ++ rest) := by simpa using fits
    exact ih (placed.report _) (by simpa using plain) plainRest.2 passed outside
  | @extend r before rest final tag c under _ _ _ ih =>
    rw [List.mem_cons, not_or] at plainRest
    have passed : Q ((front ++ before.reverse ++ [c]) ++ ([] : Text).reverse ++ rest) := by
      simpa using fits
    exact ih (placed.extend under _) (by simp) plainRest.2 passed nofun
  | @hold r before rest final c free _ _ _ ih =>
    rw [List.mem_cons, not_or] at plainRest
    have held : '<' ∉ c :: before := by simpa using ⟨plainRest.1, plain⟩
    have passed : Q (front ++ (c :: before).reverse ++ rest) := by simpa using fits
    exact ih placed held plainRest.2 passed outside

/-- Whether an item ends where it ends, and has the property `Q` if it is character data. -/
def Fits (Q : Text → Prop) : Item → Prop
  | .markup raw => Item.Cut raw
  | .text raw => '<' ∉ raw ∧ Q raw

/-- Every item of a part but the last one ends where it ends; the last one may be markup that has no
end. -/
theorem fits_scan (source : Text) : Item.scan source = [] ∨ ∃ init last,
    Item.scan source = init ++ [last] ∧ (∀ item ∈ init, Fits (fun _ => True) item) ∧
    (∀ raw, last = .markup raw → raw.head? = some '<') ∧ ∀ raw, last = .text raw → '<' ∉ raw := by
  have whole {raw : Text} (found : .markup raw ∈ (Item.scan source).dropLast) : Item.Cut raw :=
    Item.cut_of_mem_dropLast_scan found
  have opened {raw : Text} (found : .markup raw ∈ Item.scan source) := Item.head?_of_mem_scan found
  have plain {raw : Text} (found : .text raw ∈ Item.scan source) := (Item.plain_of_mem_scan found).2
  rcases List.eq_nil_or_concat (Item.scan source) with none | ⟨init, last, split⟩
  · exact .inl none
  · rw [List.concat_eq_append] at split
    rw [split, List.dropLast_concat] at whole
    rw [split] at opened plain
    refine .inr ⟨init, last, split, fun item member => ?_, ?_, ?_⟩
    · cases item with
      | markup raw => exact whole member
      | text raw => exact ⟨plain (List.mem_append_left _ member), trivial⟩
    · rintro raw rfl
      exact opened (by simp)
    · rintro raw rfl
      exact plain (by simp)

/-- Passing items keeps everything in its place. -/
theorem InPlace.foldl_step {Q : Text → Prop} (divides : Text.Divides Q) {items : List Item}
    {r : Reading} {opened after : List Text} (placed : InPlace Q r opened)
    (fits : ∀ item ∈ items, Fits Q item)
    (passed : Edge.walk opened (items.filterMap Edge.ofItem?) = some after) :
    InPlace Q (items.foldl step r) after := by
  induction items generalizing r opened with
  | nil =>
    cases passed
    exact placed
  | cons item rest ih =>
    rw [List.forall_mem_cons] at fits
    cases item with
    | markup raw =>
      have cut : Item.Cut raw := fits.1
      have split : Edge.walk opened (Edge.scan raw ++ rest.filterMap Edge.ofItem?) = some after := by
        rw [Edge.scan_of_cut cut, ← passed]
        cases edge : Edge.ofMarkup? raw <;> simp [Edge.ofItem?, edge]
      obtain ⟨between, here, later⟩ := Edge.walk_append_eq_some.mp split
      exact ih (placed.markup cut here) fits.2 later
    | text raw =>
      obtain ⟨plain, suits⟩ := fits.1
      rw [List.foldl_cons]
      refine ih ?_ fits.2 passed
      unfold step
      dsimp only
      split
      · next inText =>
        have whole : Q ([] ++ ([] : Text).reverse ++ raw) := suits
        exact placed.passes divides (placed.text.inText.mp inText) (r.passes_characters [] raw)
          (by simp) plain whole
          (fun _ => rfl)
      · exact placed.verbatim plain suits

theorem inPlace_start (Q : Text → Prop) : InPlace Q {} [] :=
  ⟨⟨rfl, by simp, by simp⟩, ⟨⟨nofun, nofun⟩, by simp, nofun⟩, ⟨.nil, by simp⟩⟩

end Reading

/-- The items of a well-formed part end where they end. -/
theorem WellFormed.fits {Q : Text → Prop} {source : Text} (formed : WellFormed source)
    (suits : ∀ raw, .text raw ∈ Item.scan source → Q raw) :
    ∀ item ∈ Item.scan source, Reading.Fits Q item := by
  intro item member
  cases item with
  | markup raw => exact Item.cut_of_mem_scan member (formed.whole raw member)
  | text raw => exact ⟨(Item.plain_of_mem_scan member).2, suits raw member⟩

/-- A part taken to pieces with everything in its place: all elements are closed behind the pieces,
tags stand in text elements, and closed paragraphs hold whole elements. -/
structure Layout.InPlace (Q : Text → Prop) (layout : Layout) : Prop where
  laid : Piece.Laid Q layout.pieces []
  closed : ∀ (number : Nat) span last, layout.paragraphs[number]? = some span →
    span.stop = some last → Edge.Encloses (Piece.edgeRows layout.pieces) span.start last

/-- Taking a well-formed part to pieces leaves everything in its place. -/
theorem Layout.inPlace_of_part {Q : Text → Prop} (divides : Text.Divides Q) {source : Text}
    (formed : WellFormed source) (textOnly : TextOnly source)
    (suits : ∀ raw, .text raw ∈ Item.scan source → Q raw) :
    Layout.InPlace Q (Layout.ofPart source) := by
  have placed := ((Reading.inPlace_start Q).foldl_step divides (formed.fits suits)
    (formed.walk_eq textOnly)).abandon
  exact ⟨placed.laid, placed.spans.closed⟩

end WordMerge
