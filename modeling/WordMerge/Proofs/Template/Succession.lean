import WordMerge.Proofs.Template.Placement

namespace WordMerge

/-- A change behind other entries is the change that is made without them. -/
theorem modify_behind {α β : Type} (front : Array β) (back : Array α) {f : α → β} {g : β → β}
    {h : α → α} (commutes : ∀ x, g (f x) = f (h x)) (i : Nat) :
    (front ++ back.map f).modify (front.size + i) g = front ++ (back.modify i h).map f := by
  refine Array.ext_getElem? fun j => ?_
  rw [Array.getElem?_modify, Array.getElem?_append, Array.getElem?_append, Array.getElem?_map,
    Array.getElem?_map, Array.getElem?_modify]
  by_cases inside : j < front.size
  · rw [if_pos inside, if_pos inside, if_neg (by omega)]
  · rw [if_neg inside, if_neg inside]
    by_cases here : i = j - front.size
    · rw [if_pos here, if_pos (by omega)]
      cases back[j - front.size]? with
      | none => rfl
      | some x => exact congrArg some (commutes x)
    · rw [if_neg here, if_neg (by omega)]

theorem setIfInBounds_behind {α β : Type} (front : Array β) (back : Array α) (f : α → β)
    (i : Nat) (x : α) :
    (front ++ back.map f).setIfInBounds (front.size + i) (f x) =
      front ++ (back.setIfInBounds i x).map f := by
  rw [Array.setIfInBounds_append_right (Nat.le_add_right _ _), Nat.add_sub_cancel_left,
    Array.map_setIfInBounds]

/-- How many places, paragraphs, rows and cells there are before. -/
structure Shift where
  /-- The number of places. -/
  places : Nat
  /-- The number of paragraphs. -/
  paragraphs : Nat
  /-- The number of table rows. -/
  rows : Nat
  /-- The number of table cells. -/
  cells : Nat

namespace Shift

/-- A tag behind all of these. -/
def tag (shift : Shift) (placed : PlacedTag) : PlacedTag :=
  ⟨placed.toTag, placed.paragraph.map (shift.paragraphs + ·), placed.row.map (shift.rows + ·),
    placed.cell.map (shift.cells + ·)⟩

/-- A piece behind all of these. -/
def piece (shift : Shift) : Piece → Piece
  | .verbatim xml => .verbatim xml
  | .tag placed => .tag (shift.tag placed)

/-- A span behind all of these. -/
def span (shift : Shift) (inner : Span) : Span :=
  { inner with start := shift.places + inner.start, stop := inner.stop.map (shift.places + ·) }

/-- A tag under way behind all of these. -/
def pending (shift : Shift) (under : PendingTag) : PendingTag :=
  ⟨shift.places + under.slot, under.textStart.map (shift.places + ·), under.raw,
    under.paragraph.map (shift.paragraphs + ·), under.row.map (shift.rows + ·),
    under.cell.map (shift.cells + ·)⟩

end Shift

namespace Reading

/-- What a reading has counted so far. -/
def counts (r : Reading) : Shift :=
  ⟨r.pieces.size, r.paragraphs.size, r.rows.size, r.cellCount⟩

/-- The reading that goes on behind another one as a reading of its own. -/
def after (base r : Reading) : Reading where
  pieces := base.pieces ++ r.pieces.map base.counts.piece
  paragraphs := base.paragraphs ++ r.paragraphs.map base.counts.span
  rows := base.rows ++ r.rows.map base.counts.span
  faults := r.faults ++ base.faults
  openParagraphs := r.openParagraphs.map (base.paragraphs.size + ·)
  openRows := r.openRows.map (base.rows.size + ·)
  openCells := r.openCells.map (base.cellCount + ·)
  cellCount := base.cellCount + r.cellCount
  textStart := r.textStart.map (base.pieces.size + ·)
  pending := r.pending.map base.counts.pending

section After

variable (base r : Reading)

/-- A piece behind other pieces is added with its numbers shifted. -/
theorem after_push (piece : Piece) :
    (base.after r).push (base.counts.piece piece) = base.after (r.push piece) := by
  simp [after, push]

theorem after_push_verbatim (xml : Text) :
    (base.after r).push (.verbatim xml) = base.after (r.push (.verbatim xml)) :=
  after_push base r (.verbatim xml)

theorem after_forget :
    { base.after r with pending := none } = base.after { r with pending := none } := rfl

theorem after_abandon : (base.after r).abandon = base.after r.abandon := by
  unfold abandon
  cases pending : r.pending with
  | none => simp [after, pending]
  | some tag => simp [after, pending, report, Shift.pending]

theorem after_openParagraph : (base.after r).openParagraph = base.after r.openParagraph := by
  simp [after, openParagraph, Shift.span, Span.beginAt, counts]

theorem after_openRow : (base.after r).openRow = base.after r.openRow := by
  simp [after, openRow, Shift.span, Span.beginAt, counts]

/-- The end of a span behind others. -/
theorem stop_behind (spans : Array Span) (front : Array Span) (shift : Shift) (id place : Nat) :
    (front ++ spans.map shift.span).modify (front.size + id)
        (fun span => { span with stop := some (shift.places + place) }) =
      front ++ (spans.modify id fun span => { span with stop := some place }).map shift.span :=
  modify_behind front spans (f := shift.span)
    (g := fun span => { span with stop := some (shift.places + place) })
    (h := fun span => { span with stop := some place }) (fun _ => rfl) id

theorem after_closeParagraph : (base.after r).closeParagraph = base.after r.closeParagraph := by
  unfold closeParagraph
  rw [after_abandon]
  generalize r.abandon = given
  have stop := stop_behind given.paragraphs base.paragraphs base.counts
  cases opened : given.openParagraphs with
  | nil => simp [after, opened]
  | cons id outer =>
    have place : (base.pieces ++ given.pieces.map base.counts.piece).size =
        base.counts.places + given.pieces.size := by simp [counts]
    simp [after, opened, place, stop]

theorem after_closeRow : (base.after r).closeRow = base.after r.closeRow := by
  have stop := stop_behind r.rows base.rows base.counts
  unfold closeRow
  cases opened : r.openRows with
  | nil => simp [after, opened]
  | cons id outer =>
    have place : (base.pieces ++ r.pieces.map base.counts.piece).size =
        base.counts.places + r.pieces.size := by simp [counts]
    simp [after, opened, place, stop]

/-- Markup behind other pieces is entered with the same effect. -/
theorem after_enter (landmark : Landmark) :
    (base.after r).enter landmark = base.after (r.enter landmark) := by
  cases landmark with
  | paragraphStart => exact after_openParagraph base r
  | paragraphEnd => exact after_closeParagraph base r
  | rowStart => exact after_openRow base r
  | rowEnd => exact after_closeRow base r
  | textStart => simp [enter, after]
  | cellStart => simp [enter, after, Nat.add_assoc]
  | cellEnd => simp [enter, after]
  | textEnd | lineBreak | other => rfl

theorem after_markup (raw : Text) : (base.after r).markup raw = base.after (r.markup raw) := by
  rw [markup, after_enter, after_push_verbatim]
  rfl

theorem after_plain (text : Text) : (base.after r).plain text = base.after (r.plain text) := by
  unfold plain
  split
  · rfl
  · rw [← after_push_verbatim]
    obtain ⟨pieces, paragraphs, rows, faults, openParagraphs, openRows, openCells⟩ := r
    cases openParagraphs with
    | nil => rfl
    | cons id outer =>
      have noted := modify_behind base.paragraphs paragraphs
        (f := base.counts.span) (g := fun span => { span with hasText := true })
        (h := fun span => { span with hasText := true }) (fun _ => rfl) id
      simp only [after, List.map_cons]
      split
      · rfl
      · rw [noted]
        rfl

theorem after_beginTag : (base.after r).beginTag = base.after r.beginTag := by
  unfold beginTag
  rw [← after_push_verbatim]
  simp [after, push, Shift.pending, counts]

/-- A text element behind others is marked at its own place. -/
theorem preserveAt_behind (pieces front : Array Piece) (shift : Shift) (place : Nat) :
    preserveAt (front ++ pieces.map shift.piece) (front.size + place) =
      front ++ (preserveAt pieces place).map shift.piece := by
  refine modify_behind front pieces (fun piece => ?_) place
  cases piece <;> rfl

/-- A paragraph behind others counts its own tags. -/
theorem counting_behind (spans front : Array Span) (shift : Shift) (own : Option Nat) :
    counting (front ++ spans.map shift.span) (own.map (front.size + ·)) =
      front ++ (counting spans own).map shift.span := by
  cases own with
  | none => rfl
  | some id =>
    exact modify_behind front spans (f := shift.span)
      (g := fun span => { span with tags := span.tags + 1 })
      (h := fun span => { span with tags := span.tags + 1 }) (fun _ => rfl) id

theorem after_finished (under : PendingTag) (placed : PlacedTag) :
    finished (base.after r).pieces (base.counts.pending under) (base.counts.tag placed) =
      base.pieces ++ (finished r.pieces under placed).map base.counts.piece := by
  have moved : (base.after r).pieces.setIfInBounds (base.pieces.size + under.slot)
      (.tag (base.counts.tag placed)) =
        base.pieces ++ (r.pieces.setIfInBounds under.slot (.tag placed)).map base.counts.piece :=
    setIfInBounds_behind base.pieces r.pieces base.counts.piece under.slot (.tag placed)
  unfold finished
  simp only [Shift.pending, counts] at moved ⊢
  rw [moved]
  cases under.textStart with
  | none => rfl
  | some start => exact preserveAt_behind _ base.pieces base.counts start

/-- A tag behind other pieces is finished with its numbers shifted. -/
theorem after_finishTag (under : PendingTag) :
    (base.after r).finishTag (base.counts.pending under) = base.after (r.finishTag under) := by
  unfold finishTag
  dsimp only [Shift.pending]
  cases Tag.ofText? (Entity.unescape under.raw.reverse) with
  | none => rfl
  | some tag =>
    have pieces := after_finished base r under ⟨tag, under.paragraph, under.row, under.cell⟩
    have paragraphs := counting_behind r.paragraphs base.paragraphs base.counts under.paragraph
    exact congr (congrArg (fun pieces spans =>
      { base.after r with pieces := pieces, paragraphs := spans }) pieces) paragraphs

end After

/-- Character data is passed behind another reading as it is by itself. -/
theorem Passes.after {r final : Reading} {before rest : Text} (base : Reading)
    (passes : r.Passes before rest final) : (base.after r).Passes before rest (base.after final) := by
  have idle {r : Reading} (free : r.pending = none) : (base.after r).pending = none := by
    simp [Reading.after, free]
  have busy {r : Reading} {tag : PendingTag} (under : r.pending = some tag) :
      (base.after r).pending = some (base.counts.pending tag) := by
    simp [Reading.after, under]
  induction passes with
  | @settle r before free =>
    rw [← after_plain]
    exact .settle (idle free)
  | wait under => exact .wait (busy under)
  | first free _ ih =>
    rw [← after_beginTag, ← after_plain] at ih
    exact .first (idle free) ih
  | again under _ ih =>
    rw [← after_beginTag, ← after_abandon] at ih
    exact .again (busy under) ih
  | finish under _ ih =>
    rw [← after_finishTag, ← after_forget] at ih
    exact .finish (busy under) ih
  | unopened free _ ih => exact .unopened (idle free) ih
  | extend under opens closes _ ih => exact .extend (busy under) opens closes ih
  | hold free opens closes _ ih => exact .hold (idle free) opens closes ih

/-- Reading an item behind other pieces is reading it alone, with numbers shifted. -/
theorem after_step (base r : Reading) (item : Item) :
    (base.after r).step item = base.after (r.step item) := by
  cases item with
  | markup raw => exact after_markup base r raw
  | text raw =>
    have inside : (base.after r).textStart.isSome = r.textStart.isSome := by simp [after]
    rw [step, step, inside]
    split
    · exact ((r.passes_characters [] raw).after base).characters_eq
    · exact after_push_verbatim base r raw

/-- A reading goes on behind another one as it would by itself. -/
theorem foldl_step_after (base r : Reading) (items : List Item) :
    items.foldl step (base.after r) = base.after (items.foldl step r) := by
  induction items generalizing r with
  | nil => rfl
  | cons item rest ih => rw [List.foldl_cons, List.foldl_cons, after_step, ih]

/-- A reading in which nothing is open. -/
structure Resting (r : Reading) : Prop where
  paragraphs : r.openParagraphs = []
  rows : r.openRows = []
  cells : r.openCells = []
  text : r.textStart = none
  tag : r.pending = none

theorem Resting.after_start {base : Reading} (resting : base.Resting) : base.after {} = base := by
  obtain ⟨pieces, paragraphs, rows, faults, openParagraphs, openRows, openCells, cellCount,
    textStart, pending⟩ := base
  obtain ⟨rfl, rfl, rfl, rfl, rfl⟩ := resting
  simp [Reading.after]

/-- Behind a reading in which nothing is open, items are read as from the start. -/
theorem Resting.foldl_step {base : Reading} (resting : base.Resting) (items : List Item) :
    items.foldl step base = base.after (items.foldl step {}) := by
  rw [← foldl_step_after, resting.after_start]

theorem Resting.after {base r : Reading} (resting : r.Resting) : (base.after r).Resting := by
  obtain ⟨paragraphs, rows, cells, text, tag⟩ := resting
  constructor <;> simp [Reading.after, paragraphs, rows, cells, text, tag]

end Reading

end WordMerge
