import WordMerge.Proofs.Template.Counterparts
import WordMerge.Proofs.Template.OpenRows

namespace WordMerge

/-- The places, paragraphs, rows and cells of one template by their numbers in another one. -/
structure Counterparts where
  /-- The places. -/
  places : List Nat := []
  /-- The paragraphs. -/
  paragraphs : List Nat := []
  /-- The table rows. -/
  rows : List Nat := []
  /-- The table cells. -/
  cells : List Nat := []

namespace Counterparts

/-- Later numbers keep the earlier ones. -/
structure Grow (ids later : Counterparts) : Prop where
  places : ids.places <+: later.places
  paragraphs : ids.paragraphs <+: later.paragraphs
  rows : ids.rows <+: later.rows
  cells : ids.cells <+: later.cells

/-- The numbers of the surroundings of a place. -/
structure Around (ids : Counterparts) (paragraph row cell paragraph' row' cell' : Option Nat) : Prop where
  paragraph : Option.Rel (Sends ids.paragraphs) paragraph paragraph'
  row : Option.Rel (Sends ids.rows) row row'
  cell : Option.Rel (Sends ids.cells) cell cell'

/-- A tag under way and its counterpart. -/
structure Pending (ids : Counterparts) (p q : PendingTag) : Prop where
  slot : Sends ids.places p.slot q.slot
  raw : p.raw = q.raw
  around : ids.Around p.paragraph p.row p.cell q.paragraph q.row q.cell

variable {ids later : Counterparts}

theorem rel_mono {a b : List Nat} (grows : a <+: b) {x y : Option Nat}
    (rel : Option.Rel (Sends a) x y) : Option.Rel (Sends b) x y := by
  obtain ⟨more, rfl⟩ := grows
  exact rel_append rel

theorem Around.mono (grow : ids.Grow later) {p r c p' r' c' : Option Nat}
    (around : ids.Around p r c p' r' c') : later.Around p r c p' r' c' :=
  ⟨rel_mono grow.paragraphs around.paragraph, rel_mono grow.rows around.row,
    rel_mono grow.cells around.cell⟩

theorem Pending.mono (grow : ids.Grow later) {p q : PendingTag} (pending : ids.Pending p q) :
    later.Pending p q := by
  obtain ⟨more, same⟩ := grow.places
  exact ⟨same ▸ pending.slot.append, pending.raw, pending.around.mono grow⟩

end Counterparts

namespace Reading

open Piece

/-- Two readings without a fault, of which the second one has the counterparts of everything that the
first one has noted. -/
structure Split (ids : Counterparts) (w s : Reading) : Prop where
  pieces : Piece.Split ids.places w.pieces s.pieces
  paragraphs : Span.Splits ids.places ids.paragraphs w.paragraphs s.paragraphs
  rows : Span.Splits ids.places ids.rows w.rows s.rows
  cells : Renumbers ids.cells w.cellCount s.cellCount
  openParagraphs : List.Forall₂ (Sends ids.paragraphs) w.openParagraphs s.openParagraphs
  openRows : List.Forall₂ (Sends ids.rows) w.openRows s.openRows
  openCells : List.Forall₂ (Sends ids.cells) w.openCells s.openCells
  tags : ∀ (i j : Nat) t u, Sends ids.places i j → w.pieces[i]? = some (.tag t) →
    s.pieces[j]? = some (.tag u) → ids.Around t.paragraph t.row t.cell u.paragraph u.row u.cell
  pending : Option.Rel ids.Pending w.pending s.pending
  clean : w.faults = [] ∧ s.faults = []

variable {ids : Counterparts} {w s : Reading} {opened after : List Text}

theorem split_start : Split {} {} {} where
  pieces := ⟨⟨rfl, .nil, by simp⟩, rfl, by simp, by simp [landmarkAt]⟩
  paragraphs := ⟨⟨rfl, .nil, by simp⟩, by simp⟩
  rows := ⟨⟨rfl, .nil, by simp⟩, by simp⟩
  cells := ⟨rfl, .nil, by simp⟩
  openParagraphs := .nil
  openRows := .nil
  openCells := .nil
  tags := by simp
  pending := .none
  clean := ⟨rfl, rfl⟩

theorem rel_pending_mono {later : Counterparts} (grow : ids.Grow later) {p q : Option PendingTag}
    (rel : Option.Rel ids.Pending p q) : Option.Rel later.Pending p q := by
  cases rel with
  | none => exact .none
  | some here => exact .some (here.mono grow)

/-- XML that comes to the same is added to both. -/
theorem Split.push (split : Split ids w s) {x y : Text}
    (alike : XmlAlike (Edge.openedAt (edgeRows w.pieces) w.pieces.size) [x] [y] after) :
    Split { ids with places := ids.places ++ [s.pieces.size] } (w.push (.verbatim x))
      (s.push (.verbatim y)) := by
  have grow : ids.Grow { ids with places := ids.places ++ [s.pieces.size] } :=
    ⟨List.prefix_append _ _, List.prefix_rfl, List.prefix_rfl, List.prefix_rfl⟩
  refine ⟨split.pieces.push alike, split.paragraphs.append, split.rows.append, split.cells,
    split.openParagraphs, split.openRows, split.openCells, fun i j t u sends found found' => ?_,
    rel_pending_mono grow split.pending, split.clean⟩
  simp only [Reading.push] at found found'
  rcases sends_append_iff.mp sends with old | ⟨rfl, rfl⟩
  · obtain ⟨inside, inside'⟩ := split.pieces.numbers.lt_size old
    rw [Array.getElem?_push, if_neg (by omega)] at found found'
    exact (split.tags i j t u old found found').mono grow
  · rw [Array.getElem?_push_size] at found'
    cases found'

/-- A paragraph begins in both. -/
theorem Split.openParagraph (split : Split ids w s) {i j : Nat} (here : Sends ids.places i j) :
    Split { ids with paragraphs := ids.paragraphs ++ [s.paragraphs.size] }
      { w with
        openParagraphs := w.paragraphs.size :: w.openParagraphs
        paragraphs := w.paragraphs.push (.beginAt i) }
      { s with
        openParagraphs := s.paragraphs.size :: s.openParagraphs
        paragraphs := s.paragraphs.push (.beginAt j) } := by
  have grow : ids.Grow { ids with paragraphs := ids.paragraphs ++ [s.paragraphs.size] } :=
    ⟨List.prefix_rfl, List.prefix_append _ _, List.prefix_rfl, List.prefix_rfl⟩
  have new : Sends (ids.paragraphs ++ [s.paragraphs.size]) w.paragraphs.size s.paragraphs.size :=
    split.paragraphs.numbers.sends_last
  exact ⟨split.pieces, split.paragraphs.push here, split.rows, split.cells,
    .cons new (forall₂_append split.openParagraphs), split.openRows, split.openCells,
    fun i j t u sends found found' => (split.tags i j t u sends found found').mono grow,
    rel_pending_mono grow split.pending, split.clean⟩

/-- A table row begins in both. -/
theorem Split.openRow (split : Split ids w s) {i j : Nat} (here : Sends ids.places i j) :
    Split { ids with rows := ids.rows ++ [s.rows.size] }
      { w with
        openRows := w.rows.size :: w.openRows
        rows := w.rows.push (.beginAt i) }
      { s with
        openRows := s.rows.size :: s.openRows
        rows := s.rows.push (.beginAt j) } := by
  have grow : ids.Grow { ids with rows := ids.rows ++ [s.rows.size] } :=
    ⟨List.prefix_rfl, List.prefix_rfl, List.prefix_append _ _, List.prefix_rfl⟩
  have new : Sends (ids.rows ++ [s.rows.size]) w.rows.size s.rows.size :=
    split.rows.numbers.sends_last
  exact ⟨split.pieces, split.paragraphs, split.rows.push here, split.cells, split.openParagraphs,
    .cons new (forall₂_append split.openRows), split.openCells,
    fun i j t u sends found found' => (split.tags i j t u sends found found').mono grow,
    rel_pending_mono grow split.pending, split.clean⟩

/-- A table cell begins in both. -/
theorem Split.openCell (split : Split ids w s) :
    Split { ids with cells := ids.cells ++ [s.cellCount] }
      { w with openCells := w.cellCount :: w.openCells, cellCount := w.cellCount + 1 }
      { s with openCells := s.cellCount :: s.openCells, cellCount := s.cellCount + 1 } := by
  have grow : ids.Grow { ids with cells := ids.cells ++ [s.cellCount] } :=
    ⟨List.prefix_rfl, List.prefix_rfl, List.prefix_rfl, List.prefix_append _ _⟩
  have new : Sends (ids.cells ++ [s.cellCount]) w.cellCount s.cellCount :=
    split.cells.sends_last
  exact ⟨split.pieces, split.paragraphs, split.rows, split.cells.push, split.openParagraphs,
    split.openRows, .cons new (forall₂_append split.openCells),
    fun i j t u sends found found' => (split.tags i j t u sends found found').mono grow,
    rel_pending_mono grow split.pending, split.clean⟩

/-- A span that ends at a place and its counterpart. -/
theorem span_stop {places : List Nat} {i j : Nat} (here : Sends places i j) (a b : Span)
    (split : Span.Split places a b) :
    Span.Split places { a with stop := some i } { b with stop := some j } :=
  ⟨split.start, .some here, split.tags, split.hasText⟩

theorem forall₂_tail {ids : List Nat} {x y : List Nat} (rel : List.Forall₂ (Sends ids) x y) :
    List.Forall₂ (Sends ids) x.tail y.tail := by
  cases rel with
  | nil => exact .nil
  | cons _ rest => exact rest

/-- Two readings that go on side by side behind the same open elements. -/
structure Together (opened : List Text) (w s : Reading) : Prop where
  split : ∃ ids, Split ids w s
  whole : InPlace (fun _ => True) w opened
  cut : InPlace (fun _ => True) s opened

/-- Two readings that both have found a fault, or go on side by side. -/
def Parallel (opened : List Text) (w s : Reading) : Prop :=
  (w.faults ≠ [] ∧ s.faults ≠ []) ∨ Together opened w s

theorem together_start : Together [] {} {} :=
  ⟨⟨{}, split_start⟩, inPlace_start _, inPlace_start _⟩

theorem rel_pending_cases {p q : Option PendingTag} (rel : Option.Rel ids.Pending p q) :
    p = none ∧ q = none ∨ ∃ p' q', p = some p' ∧ q = some q' ∧ ids.Pending p' q' := by
  cases rel with
  | none => exact .inl ⟨rfl, rfl⟩
  | some here => exact .inr ⟨_, _, rfl, rfl, here⟩

theorem faults_abandon_ne_nil {r : Reading} {tag : PendingTag} (under : r.pending = some tag) :
    r.abandon.faults ≠ [] := by
  intro clean
  rw [pending_eq_none_of_abandon clean] at under
  cases under

/-- Markup does the same to both readings. -/
theorem Split.markup (split : Split ids w s) {raw : Text}
    (alike : XmlAlike (Edge.openedAt (edgeRows w.pieces) w.pieces.size) [raw] [raw] after) :
    ((w.markup raw).faults ≠ [] ∧ (s.markup raw).faults ≠ []) ∨
      ∃ ids, Split ids (w.markup raw) (s.markup raw) := by
  have pushed := split.push alike
  have here : Sends (ids.places ++ [s.pieces.size]) w.pieces.size s.pieces.size :=
    split.pieces.numbers.sends_last
  unfold Reading.markup
  cases Landmark.ofMarkup raw with
  | paragraphStart => exact .inr ⟨_, pushed.openParagraph here⟩
  -- A paragraph that ends inside of a tag is a fault on both sides.
  | paragraphEnd =>
    rcases rel_pending_cases split.pending with ⟨free, free'⟩ | ⟨p, q, under, under', _⟩
    · refine .inr ⟨{ ids with places := ids.places ++ [s.pieces.size] }, ?_⟩
      simp only [enter, closeParagraph, abandon_of_pending free, abandon_of_pending free']
      have opens := split.openParagraphs
      generalize first : w.openParagraphs = x, second : s.openParagraphs = y at opens
      cases opens with
      | nil => exact pushed
      | cons sends rest =>
        exact { pushed with
          paragraphs := pushed.paragraphs.modify sends (span_stop here)
          openParagraphs := rest }
    · refine .inl ⟨?_, ?_⟩
      · change w.closeParagraph.faults ≠ []
        rw [closeParagraph_faults]
        exact faults_abandon_ne_nil under
      · change s.closeParagraph.faults ≠ []
        rw [closeParagraph_faults]
        exact faults_abandon_ne_nil under'
  | rowStart => exact .inr ⟨_, pushed.openRow here⟩
  | rowEnd =>
    refine .inr ⟨{ ids with places := ids.places ++ [s.pieces.size] }, ?_⟩
    rw [enter, enter, closeRow, closeRow]
    have opens := split.openRows
    generalize first : w.openRows = x, second : s.openRows = y at opens
    cases opens with
    | nil => exact pushed
    | cons sends rest =>
      exact { pushed with
        rows := pushed.rows.modify sends (span_stop here)
        openRows := rest }
  | cellStart => exact .inr ⟨_, pushed.openCell⟩
  | cellEnd => exact .inr ⟨_, { pushed with openCells := forall₂_tail pushed.openCells }⟩
  | textStart => exact .inr ⟨_, { pushed with }⟩
  | textEnd => exact .inr ⟨_, { pushed with }⟩
  | lineBreak => exact .inr ⟨_, pushed⟩
  | other => exact .inr ⟨_, pushed⟩

theorem openedAt_size (placed : InPlace (fun _ => True) w opened) :
    Edge.openedAt (edgeRows w.pieces) w.pieces.size = opened := by
  rw [← length_edgeRows, Edge.openedAt_length placed.laid.walked]

/-- Markup keeps two readings together, unless it breaks a tag in both. -/
theorem Together.markup (together : Together opened w s) {raw : Text} (cut : Item.Cut raw)
    (passed : Edge.walk opened (Edge.scan raw) = some after) :
    Parallel after (w.markup raw) (s.markup raw) := by
  obtain ⟨⟨ids, split⟩, whole, placed⟩ := together
  have alike : XmlAlike (Edge.openedAt (edgeRows w.pieces) w.pieces.size) [raw] [raw] after := by
    rw [openedAt_size whole]
    exact XmlAlike.refl (by simpa using passed)
  rcases split.markup alike with faulty | later
  · exact .inl faulty
  · exact .inr ⟨later, whole.markup cut passed, placed.markup cut passed⟩

/-- Markup keeps two readings side by side. -/
theorem Parallel.markup (parallel : Parallel opened w s) {raw : Text} (cut : Item.Cut raw)
    (passed : Edge.walk opened (Edge.scan raw) = some after) :
    Parallel after (w.markup raw) (s.markup raw) := by
  have kept {r : Reading} (faulty : r.faults ≠ []) : (r.markup raw).faults ≠ [] := by
    intro clean
    have suffix := markup_faults_suffix r raw
    rw [clean, List.suffix_nil] at suffix
    exact faulty suffix
  rcases parallel with ⟨left, right⟩ | together
  · exact .inl ⟨kept left, kept right⟩
  · exact together.markup cut passed

/-- The paragraphs with a text noted for the innermost open one. -/
def noteText (numbers : List Nat) (spans : Array Span) (text : Text) : Array Span :=
  if Text.blank text then spans
  else numbers.head?.elim spans fun id => spans.modify id fun span => { span with hasText := true }

theorem plain_eq (r : Reading) {text : Text} (filled : text ≠ []) :
    r.plain text =
      { r with paragraphs := noteText r.openParagraphs r.paragraphs text }.push (.verbatim text) := by
  unfold Reading.plain noteText
  rw [if_neg (by simpa using filled)]
  obtain ⟨pieces, paragraphs, rows, faults, openParagraphs, openRows, openCells, cellCount,
    textStart, pending⟩ := r
  cases openParagraphs with
  | nil => simp
  | cons id outer => by_cases blank : Text.blank text = true <;> simp [blank]

/-- Texts are noted one after the other. -/
theorem noteText_append (numbers : List Nat) (spans : Array Span) (front back : Text) :
    noteText numbers spans (front ++ back) = noteText numbers (noteText numbers spans front) back := by
  have both : Text.blank (front ++ back) = (Text.blank front && Text.blank back) := List.all_append
  unfold noteText
  rw [both]
  cases Text.blank front with
  | true => rfl
  | false =>
    cases Text.blank back with
    | true => rfl
    | false =>
      cases numbers with
      | nil => rfl
      | cons id outer =>
        apply Array.ext_getElem?
        intro place
        simp only [List.head?_cons, Option.elim_some, Array.getElem?_modify, Bool.and_false,
          Bool.false_eq_true, if_false]
        split <;> cases spans[place]? <;> rfl

/-- A text is noted in counterparts of the same paragraphs. -/
theorem splits_noteText {places ids : List Nat} {spans spans' : Array Span} {x y : List Nat}
    (splits : Span.Splits places ids spans spans') (opens : List.Forall₂ (Sends ids) x y)
    (text : Text) : Span.Splits places ids (noteText x spans text) (noteText y spans' text) := by
  unfold noteText
  split
  · exact splits
  · cases opens with
    | nil => exact splits
    | cons sends _ =>
      exact splits.modify sends fun a b same => ⟨same.start, same.stop, same.tags, rfl⟩

theorem xmlAlike_plain {xml : Text} (plain : '<' ∉ xml) (opened : List Text) :
    XmlAlike opened [xml] [xml] opened := by
  refine XmlAlike.refl ?_
  rw [List.flatMap_singleton, Edge.scan_of_plain plain, Edge.walk_nil]

/-- The same text outside tags is passed in both. -/
theorem Split.plain (split : Split ids w s) {text : Text} (plain : '<' ∉ text) :
    ∃ ids, Split ids (w.plain text) (s.plain text) := by
  by_cases empty : text = []
  · subst empty
    exact ⟨ids, split⟩
  · rw [plain_eq w empty, plain_eq s empty]
    have noted : Split ids { w with paragraphs := noteText w.openParagraphs w.paragraphs text }
        { s with paragraphs := noteText s.openParagraphs s.paragraphs text } :=
      { split with paragraphs := splits_noteText split.paragraphs split.openParagraphs text }
    exact ⟨_, noted.push (xmlAlike_plain plain _)⟩

/-- A text that has come in two parts in the second reading is one text in the first one. -/
theorem Split.extend {front back : Text} (split : Split ids (w.plain front) s) (plain : '<' ∉ front)
    (complete : Entity.Complete front) (plainBack : '<' ∉ back) :
    ∃ ids, Split ids (w.plain (front ++ back)) (s.plain back) := by
  by_cases none : back = []
  · subst none
    rw [List.append_nil]
    exact ⟨ids, split⟩
  by_cases empty : front = []
  · subst empty
    exact Split.plain split plainBack
  have filled : front ++ back ≠ [] := by simp [empty]
  rw [plain_eq w empty] at split
  rw [plain_eq w filled, plain_eq s none]
  refine ⟨ids, split.pieces.extend plain complete plainBack, ?_, split.rows, split.cells,
    split.openParagraphs, split.openRows, split.openCells, fun i j t u sends found found' => ?_,
    split.pending, split.clean⟩
  · simp only [Reading.push]
    rw [noteText_append]
    exact splits_noteText split.paragraphs split.openParagraphs back
  · simp only [Reading.push] at found found'
    obtain ⟨inside, inside'⟩ := split.pieces.numbers.lt_size sends
    rw [Array.getElem?_push, if_neg (by omega)] at found'
    rw [Array.getElem?_push] at found
    split at found
    · cases found
    · next before =>
      refine split.tags i j t u sends ?_ found'
      rw [Reading.push, Array.getElem?_push, if_neg before, found]

theorem Split.beginTag (split : Split ids w s) : ∃ ids, Split ids w.beginTag s.beginTag := by
  have pushed := split.push (@xmlAlike_plain [] (by simp) _)
  have here : Sends (ids.places ++ [s.pieces.size]) w.pieces.size s.pieces.size :=
    split.pieces.numbers.sends_last
  refine ⟨{ ids with places := ids.places ++ [s.pieces.size] }, { pushed with pending := .some ?_ }⟩
  exact ⟨here, rfl, rel_head? split.openParagraphs, rel_head? split.openRows,
    rel_head? split.openCells⟩

/-- A tag under way takes in the same character in both. -/
theorem Split.take (split : Split ids w s) {p q : PendingTag} (pending : ids.Pending p q)
    (raw : Text) : Split ids { w with pending := some { p with raw := raw } }
      { s with pending := some { q with raw := raw } } :=
  { split with pending := .some ⟨pending.slot, rfl, pending.around⟩ }

theorem kin_refl (pieces : List Piece) : List.Forall₂ Kin pieces pieces :=
  List.forall₂_same.mpr fun _ _ => .inl rfl

/-- Finishing a tag puts it to its place; beyond that a start tag of a text element may change. -/
theorem kin_finished {pieces : Array Piece} {pending : PendingTag} {tag : PlacedTag}
    (slot : pieces[pending.slot]? = some (.verbatim []))
    (start : ∀ place, pending.textStart = some place → StartsText pieces place) :
    List.Forall₂ Kin (pieces.setIfInBounds pending.slot (.tag tag)).toList
      (finished pieces pending tag).toList := by
  unfold finished
  cases around : pending.textStart with
  | none => exact kin_refl _
  | some place =>
    obtain ⟨raw, found, starts⟩ := start place around
    have other : pending.slot ≠ place := by
      rintro rfl
      rw [slot] at found
      cases found
      cases starts.cut.opened
    have there : (pieces.setIfInBounds pending.slot (.tag tag))[place]? = some (.verbatim raw) := by
      rw [Array.getElem?_setIfInBounds, if_neg other, found]
    refine List.forall₂_iff_get.mpr ⟨by simp [preserveAt], fun i inside inside' => ?_⟩
    simp only [Option.elim_some, List.get_eq_getElem, Array.getElem_toList, preserveAt,
      Array.getElem_modify]
    split
    · next here =>
      subst here
      obtain ⟨_, same⟩ := Array.getElem?_eq_some_iff.mp there
      rw [same]
      exact .inr ⟨raw, preserveSpace raw, rfl, rfl, starts, starts.preserve⟩
    · exact .inl rfl

/-- A tag is counted in counterparts of the same paragraph. -/
theorem splits_counting {places numbers : List Nat} {spans spans' : Array Span}
    (splits : Span.Splits places numbers spans spans') {own own' : Option Nat}
    (sends : Option.Rel (Sends numbers) own own') :
    Span.Splits places numbers (counting spans own) (counting spans' own') := by
  cases sends with
  | none => exact splits
  | some here =>
    have counted (a b : Span) (same : Span.Split places a b) :
        Span.Split places { a with tags := a.tags + 1 } { b with tags := b.tags + 1 } :=
      ⟨same.start, same.stop, congrArg (· + 1) same.tags, same.hasText⟩
    exact splits.modify here counted

/-- A tag is finished in both or in none. -/
theorem Split.finishTag (split : Split ids w s) {p q : PendingTag} (pending : ids.Pending p q)
    (slot : w.pieces[p.slot]? = some (.verbatim [])) (slot' : s.pieces[q.slot]? = some (.verbatim []))
    (start : ∀ place, p.textStart = some place → StartsText w.pieces place)
    (start' : ∀ place, q.textStart = some place → StartsText s.pieces place) :
    (({ w with pending := none }.finishTag p).faults ≠ [] ∧
        ({ s with pending := none }.finishTag q).faults ≠ []) ∨
      Split ids ({ w with pending := none }.finishTag p) ({ s with pending := none }.finishTag q) := by
  unfold Reading.finishTag
  rw [← pending.raw]
  dsimp only
  cases Tag.ofText? (Entity.unescape p.raw.reverse) with
  | none => exact .inl ⟨by simp [report], by simp [report]⟩
  | some tag =>
    dsimp only
    generalize named : (⟨tag, p.paragraph, p.row, p.cell⟩ : PlacedTag) = t
    generalize named' : (⟨tag, q.paragraph, q.row, q.cell⟩ : PlacedTag) = u
    have same : t.toTag = u.toTag := by rw [← named, ← named']
    have around : ids.Around t.paragraph t.row t.cell u.paragraph u.row u.cell := by
      rw [← named, ← named']
      exact pending.around
    have placed : Piece.Split ids.places (finished w.pieces p t) (finished s.pieces q u) :=
      (split.pieces.set pending.slot slot slot' same).kin (kin_finished slot start)
        (kin_finished slot' start')
    refine .inr { split with
      pieces := placed
      paragraphs := ?_
      tags := fun i j t' u' sends found found' => ?_
      pending := .none }
    · exact splits_counting split.paragraphs pending.around.paragraph
    · have places := split.pieces.numbers.eq_iff pending.slot sends
      change (finished w.pieces p t)[i]? = some (.tag t') at found
      change (finished s.pieces q u)[j]? = some (.tag u') at found'
      rcases tag_of_finished slot t found with ⟨here, rfl⟩ | ⟨other, old⟩
      · rcases tag_of_finished slot' u found' with ⟨_, rfl⟩ | ⟨other, _⟩
        · exact around
        · exact absurd (places.mpr here.symm).symm other
      · rcases tag_of_finished slot' u found' with ⟨here, _⟩ | ⟨_, old'⟩
        · exact absurd (places.mp here.symm).symm other
        · exact split.tags i j t' u' sends old old'

/-- Two readings on their way through a text: the first one has passed `front` and `back` since the
last tag, of which the second one has put `front` among its pieces. -/
structure Midway (opened : List Text) (w s : Reading) (front back : Text) : Prop where
  split : ∃ ids, Split ids (w.plain front) s
  whole : InPlace (fun _ => True) w opened
  cut : InPlace (fun _ => True) s opened
  plain : '<' ∉ front ∧ '<' ∉ back
  complete : Entity.Complete front
  under : w.pending ≠ none → front = [] ∧ back = []
  extensible : Extensible w.pieces

variable {front back : Text}

theorem Together.midway (together : Together opened w s) (extensible : Extensible w.pieces) :
    Midway opened w s [] [] :=
  ⟨together.split, together.whole, together.cut, by simp, Entity.complete_nil, fun _ => ⟨rfl, rfl⟩,
    extensible⟩

/-- Midway through a text, a tag is under way in both readings or in none. -/
theorem Midway.pending (mid : Midway opened w s front back) :
    w.pending = none ∧ s.pending = none ∨ ∃ ids p q, w.pending = some p ∧ s.pending = some q ∧
      ids.Pending p q ∧ Split ids w s := by
  obtain ⟨ids, split⟩ := mid.split
  rcases rel_pending_cases split.pending with ⟨free, free'⟩ | ⟨p, q, under, under', pending⟩
  · rw [plain_pending] at free
    exact .inl ⟨free, free'⟩
  · rw [plain_pending] at under
    obtain ⟨rfl, -⟩ := mid.under (by simp [under])
    exact .inr ⟨ids, p, q, under, under', pending, split⟩

theorem extensible_plain (extensible : Extensible w.pieces) {text : Text} (plain : '<' ∉ text) :
    Extensible (w.plain text).pieces := by
  by_cases empty : text = []
  · subst empty
    exact extensible
  · rw [plain_eq w empty]
    refine extensible_push ?_
    rw [landmark_of_plain plain]
    simp

/-- Where the second reading meets the end of a text, it puts down what it has passed. -/
theorem Midway.flush (mid : Midway opened w s front back) (complete : Entity.Complete back) :
    Midway opened w (s.characters back.reverse []) (front ++ back) [] := by
  have both : '<' ∉ front ++ back := by simp [mid.plain]
  rcases mid.pending with ⟨free, free'⟩ | ⟨ids, p, q, under, under', pending, split⟩
  · have put : s.characters back.reverse [] = s.plain back := by simp [characters, free']
    obtain ⟨ids, split⟩ := mid.split
    rw [put]
    exact ⟨split.extend mid.plain.1 mid.complete mid.plain.2, mid.whole,
      mid.cut.plain mid.plain.2 trivial, ⟨both, by simp⟩, mid.complete.append complete,
      fun still => absurd free still, mid.extensible⟩
  · obtain ⟨rfl, rfl⟩ := mid.under (by simp [under])
    have kept : s.characters [].reverse [] = s := by simp [characters, under']
    rw [kept]
    exact mid

/-- Where the first reading meets the end of a text, both have put down the same. -/
theorem Midway.finish (mid : Midway opened w s front []) :
    Together opened (w.characters front.reverse []) s := by
  rcases mid.pending with ⟨free, free'⟩ | ⟨ids, p, q, under, under', pending, split⟩
  · have put : w.characters front.reverse [] = w.plain front := by simp [characters, free]
    rw [put]
    exact ⟨mid.split, mid.whole.plain mid.plain.1 trivial, mid.cut⟩
  · obtain ⟨rfl, -⟩ := mid.under (by simp [under])
    have kept : w.characters [].reverse [] = w := by simp [characters, under]
    rw [kept]
    exact ⟨⟨ids, split⟩, mid.whole, mid.cut⟩

theorem extensible_finished {pieces : Array Piece} {pending : PendingTag} {tag : PlacedTag}
    (slot : pieces[pending.slot]? = some (.verbatim []))
    (start : ∀ place, pending.textStart = some place → StartsText pieces place)
    (extensible : Extensible pieces) : Extensible (finished pieces pending tag) := by
  obtain ⟨mark, there, other⟩ := extensible
  refine ⟨mark, ?_, other⟩
  rw [landmarkAt_finished slot start, size_finished]
  exact there

/-- One character takes both readings to a fault. -/
def Fails (w s : Reading) (front back : Text) (c : Char) : Prop :=
  ∃ (w' s' : Reading) (before before' : Text), w'.faults ≠ [] ∧ s'.faults ≠ [] ∧ ∀ rest,
    w.characters (front ++ back).reverse (c :: rest) = w'.characters before rest ∧
      s.characters back.reverse (c :: rest) = s'.characters before' rest

/-- One character takes both readings to another place midway. -/
def GoesOn (opened : List Text) (w s : Reading) (front back : Text) (c : Char) : Prop :=
  ∃ (w' s' : Reading) (front' back' : Text), Midway opened w' s' front' back' ∧
    (back' = back ++ [c] ∨ back' = []) ∧ ∀ rest,
      w.characters (front ++ back).reverse (c :: rest) =
          w'.characters (front' ++ back').reverse rest ∧
        s.characters back.reverse (c :: rest) = s'.characters back'.reverse rest

/-- A character outside tags keeps two readings midway, unless it is a fault in both. -/
theorem Midway.character_outside {c : Char} (mid : Midway opened w s front back)
    (inside : opened.head? = some textName) (plain : c ≠ '<')
    (idle : w.pending = none ∧ s.pending = none) :
    Fails w s front back c ∨ GoesOn opened w s front back c := by
  obtain ⟨free, free'⟩ := idle
  by_cases opens : c = '\x7b'
  · subst opens
    obtain ⟨ids, split⟩ := mid.split
    obtain ⟨ids, longer⟩ := split.extend mid.plain.1 mid.complete mid.plain.2
    have both : '<' ∉ front ++ back := by simp [mid.plain]
    have begun : Together opened (w.plain (front ++ back)).beginTag (s.plain back).beginTag :=
      ⟨longer.beginTag, (mid.whole.plain both trivial).beginTag trivial inside,
        (mid.cut.plain mid.plain.2 trivial).beginTag trivial inside⟩
    have extensible : Extensible (w.plain (front ++ back)).beginTag.pieces :=
      extensible_push (by simp [landmark, Landmark.ofMarkup, Edge.ofMarkup?])
    refine .inr ⟨_, _, [], [], begun.midway extensible, .inr rfl, fun rest => ?_⟩
    constructor <;> simp [characters, free, free']
  · by_cases closes : c = '\x7d'
    · subst closes
      refine .inl ⟨w.report (.unopenedTag (Text.trim (Entity.unescape (front ++ back)))),
        s.report (.unopenedTag (Text.trim (Entity.unescape back))),
        '\x7d' :: (front ++ back).reverse, '\x7d' :: back.reverse, by simp [report],
        by simp [report], fun rest => ?_⟩
      constructor <;> simp [characters, free, free']
    · refine .inr ⟨w, s, front, back ++ [c], ⟨mid.split, mid.whole, mid.cut, ⟨mid.plain.1, ?_⟩,
        mid.complete, fun still => absurd free still, mid.extensible⟩, .inl rfl, fun rest => ?_⟩
      · simp [mid.plain.2, plain.symm]
      · constructor <;> simp [characters, free, free', opens, closes]

/-- A character of a tag keeps two readings midway, unless it is a fault in both. -/
theorem Midway.character_inside {c : Char} (mid : Midway opened w s front back) {p q : PendingTag}
    (under : w.pending = some p) (under' : s.pending = some q) {ids : Counterparts}
    (pending : ids.Pending p q) (split : Split ids w s) :
    Fails w s front back c ∨ GoesOn opened w s front back c := by
  obtain ⟨rfl, rfl⟩ := mid.under (by simp [under])
  by_cases opens : c = '\x7b'
  · subst opens
    refine .inl ⟨w.abandon.beginTag, s.abandon.beginTag, [], [], faults_abandon_ne_nil under,
      faults_abandon_ne_nil under', fun rest => ?_⟩
    exact ⟨by simp [characters, under], by simp [characters, under']⟩
  · by_cases closes : c = '\x7d'
    · subst closes
      obtain ⟨slot, -⟩ := mid.whole.text.slot p under
      obtain ⟨slot', -⟩ := mid.cut.text.slot q under'
      have start := mid.whole.text.starts.brace p under
      have start' := mid.cut.text.starts.brace q under'
      have passed (rest : Text) : w.characters [] ('\x7d' :: rest) =
            ({ w with pending := none }.finishTag p).characters [] rest ∧
          s.characters [] ('\x7d' :: rest) =
            ({ s with pending := none }.finishTag q).characters [] rest := by
        constructor <;> simp [characters, under, under']
      rcases split.finishTag pending slot slot' start start' with ⟨left, right⟩ | finished
      · exact .inl ⟨_, _, [], [], left, right, passed⟩
      · have together : Together opened ({ w with pending := none }.finishTag p)
            ({ s with pending := none }.finishTag q) :=
          ⟨⟨ids, finished⟩, mid.whole.finishTag under, mid.cut.finishTag under'⟩
        refine .inr ⟨_, _, [], [], together.midway ?_, .inr rfl, passed⟩
        rcases { w with pending := none }.finishTag_cases p with ⟨fault, same⟩ | ⟨tag, _, _, same⟩
        · rw [same]
          exact mid.extensible
        · rw [same]
          exact extensible_finished slot start mid.extensible
    · have together : Together opened
          { w with pending := some { p with raw := c :: p.raw } }
          { s with pending := some { q with raw := c :: p.raw } } :=
        ⟨⟨ids, split.take pending (c :: p.raw)⟩, mid.whole.extend under _, mid.cut.extend under' _⟩
      refine .inr ⟨_, _, [], [], together.midway mid.extensible, .inr rfl, fun rest => ?_⟩
      constructor <;> simp [characters, under, under', opens, closes, pending.raw]

/-- One character takes both readings from a place midway to another one, or to a fault. -/
theorem Midway.character {c : Char} (mid : Midway opened w s front back)
    (inside : opened.head? = some textName) (plain : c ≠ '<') :
    Fails w s front back c ∨ GoesOn opened w s front back c := by
  rcases mid.pending with idle | ⟨ids, p, q, under, under', pending, split⟩
  · exact mid.character_outside inside plain idle
  · exact mid.character_inside under under' pending split

/-- Characters take both readings from a place midway to another one, or to a fault. -/
theorem Midway.characters {text : Text} (mid : Midway opened w s front back)
    (inside : opened.head? = some textName) (plain : '<' ∉ text)
    (complete : Entity.Complete (back ++ text)) :
    (∀ rest, (w.characters (front ++ back).reverse (text ++ rest)).faults ≠ [] ∧
      (s.characters back.reverse (text ++ rest)).faults ≠ []) ∨
    ∃ (w' s' : Reading) (front' back' : Text), Midway opened w' s' front' back' ∧
      Entity.Complete back' ∧ ∀ rest,
      w.characters (front ++ back).reverse (text ++ rest) =
          w'.characters (front' ++ back').reverse rest ∧
        s.characters back.reverse (text ++ rest) = s'.characters back'.reverse rest := by
  -- By the characters: what is held back grows by the character, or starts anew with it.
  induction text generalizing w s front back with
  | nil =>
    rw [List.append_nil] at complete
    exact .inr ⟨w, s, front, back, mid, complete, fun rest => ⟨rfl, rfl⟩⟩
  | cons c text ih =>
    rw [List.mem_cons, not_or] at plain
    rcases mid.character inside (Ne.symm plain.1) with
      ⟨w', s', before, before', left, right, passed⟩ | ⟨w', s', front', back', later, kept, passed⟩
    · refine .inl fun rest => ?_
      obtain ⟨one, two⟩ := passed (text ++ rest)
      rw [List.cons_append, one, two]
      exact ⟨fun clean => left ((w'.passes_characters before _).faults_eq_nil clean),
        fun clean => right ((s'.passes_characters before' _).faults_eq_nil clean)⟩
    · have remains : Entity.Complete (back' ++ text) := by
        rcases kept with rfl | rfl
        · simpa using complete
        · exact complete.of_suffix
            ((List.suffix_cons c text).trans (List.suffix_append back (c :: text)))
      rcases ih later plain.2 remains with faulty | ⟨w'', s'', front'', back'', last, ends, more⟩
      · refine .inl fun rest => ?_
        obtain ⟨one, two⟩ := passed (text ++ rest)
        rw [List.cons_append, one, two]
        exact faulty rest
      · refine .inr ⟨w'', s'', front'', back'', last, ends, fun rest => ?_⟩
        obtain ⟨one, two⟩ := passed (text ++ rest)
        rw [List.cons_append, one, two]
        exact more rest

/-- A reading that has gone on over some markup without noting anything but table rows and cells that
have ended again. -/
structure Idles (s later : Reading) (row : List Text) : Prop where
  pieces : later.pieces.toList = s.pieces.toList ++ row.map .verbatim
  paragraphs : later.paragraphs = s.paragraphs ∧ later.openParagraphs = s.openParagraphs
  rows : s.rows.size ≤ later.rows.size ∧ ∀ k < s.rows.size, later.rows[k]? = s.rows[k]?
  cells : s.cellCount ≤ later.cellCount
  inner : later.openRows = s.openRows ∧ later.openCells = s.openCells
  pending : later.pending = s.pending
  faults : later.faults = s.faults

/-- Such markup may be added to the second reading alone. -/
theorem Split.skip {later : Reading} {row : List Text} (split : Split ids w s)
    (idles : Idles s later row) (placed : InPlace (fun _ => True) w opened)
    (idle : XmlAlike opened [] row opened) (extensible : Extensible w.pieces) :
    Split ids w later := by
  refine ⟨split.pieces.skip placed.laid idles.pieces idle extensible, ?_, ?_,
    split.cells.grow idles.cells, ?_, ?_, ?_, fun i j t u sends found found' => ?_, ?_, ?_⟩
  · rw [idles.paragraphs.1]
    exact split.paragraphs
  · exact split.rows.skip idles.rows.2 idles.rows.1
  · rw [idles.paragraphs.2]
    exact split.openParagraphs
  · rw [idles.inner.1]
    exact split.openRows
  · rw [idles.inner.2]
    exact split.openCells
  · obtain ⟨_, inside⟩ := split.pieces.numbers.lt_size sends
    rw [← Array.getElem?_toList, idles.pieces, List.getElem?_append_left (by simpa using inside),
      Array.getElem?_toList] at found'
    exact split.tags i j t u sends found found'
  · rw [idles.pending]
    exact split.pending
  · rw [idles.faults]
    exact split.clean

theorem Midway.skip {later : Reading} {row : List Text} (mid : Midway opened w s front [])
    (idles : Idles s later row) (idle : XmlAlike opened [] row opened)
    (cut : InPlace (fun _ => True) later opened) : Midway opened w later front [] := by
  obtain ⟨ids, split⟩ := mid.split
  exact ⟨⟨ids, split.skip idles (mid.whole.plain mid.plain.1 trivial) idle
    (extensible_plain mid.extensible mid.plain.1)⟩, mid.whole, cut, mid.plain, mid.complete, mid.under,
    mid.extensible⟩

theorem Together.skip {later : Reading} {row : List Text} (together : Together opened w s)
    (idles : Idles s later row) (idle : XmlAlike opened [] row opened)
    (cut : InPlace (fun _ => True) later opened) (extensible : Extensible w.pieces) :
    Together opened w later := by
  obtain ⟨⟨ids, split⟩, whole, _⟩ := together
  exact ⟨⟨ids, split.skip idles whole idle extensible⟩, whole, cut⟩

/-- A reading inside some markup, behind which the given elements are open: so many table rows and
cells have begun there and have not ended. -/
structure Amid (s r : Reading) (inner : List Text) (row : List Text) : Prop where
  pieces : r.pieces.toList = s.pieces.toList ++ row.map .verbatim
  paragraphs : r.paragraphs = s.paragraphs ∧ r.openParagraphs = s.openParagraphs
  above : Above s r inner
  cells : s.cellCount ≤ r.cellCount
  pending : r.pending = s.pending
  faults : r.faults = s.faults

theorem cellCount_enter (r : Reading) (landmark : Landmark) :
    r.cellCount ≤ (r.enter landmark).cellCount := by
  cases landmark with
  | paragraphEnd =>
    have same : r.abandon.cellCount = r.cellCount := by
      unfold abandon
      split <;> rfl
    rw [enter, closeParagraph]
    split <;> exact same.ge
  | rowEnd =>
    rw [enter, closeRow]
    split <;> exact Nat.le_refl _
  | cellStart => exact Nat.le_succ _
  | paragraphStart | textStart | textEnd | rowStart | cellEnd | lineBreak | other =>
    exact Nat.le_refl _

theorem Amid.markup {r : Reading} {inner next row : List Text} (amid : Amid s r inner row)
    {raw : Text} (cut : Item.Cut raw)
    (outside : Landmark.ofMarkup raw ∉ [.paragraphStart, .paragraphEnd])
    (walked : Edge.walk inner (Edge.scan raw) = some next) :
    Amid s (r.markup raw) next (row ++ [raw]) := by
  obtain ⟨opened, faults, pending, paragraphs⟩ := enter_of_inner outside r
  rw [Edge.scan_of_cut cut] at walked
  exact {
    pieces := by simp [markup_pieces, amid.pieces]
    paragraphs := ⟨paragraphs.trans amid.paragraphs.1, opened.trans amid.paragraphs.2⟩
    above := amid.above.markup (Edge.passAll_of_walk walked)
    cells := amid.cells.trans (cellCount_enter r _)
    pending := pending.trans amid.pending
    faults := faults.trans amid.faults }

/-- Markup between runs is such markup. -/
theorem Amid.foldl_markup {r : Reading} {inner last row rest : List Text}
    (amid : Amid s r inner row) (cut : ∀ raw ∈ rest, Item.Cut raw)
    (outside : ∀ raw ∈ rest, Landmark.ofMarkup raw ∉ [.paragraphStart, .paragraphEnd])
    (walked : Edge.walk inner (rest.flatMap Edge.scan) = some last) :
    Amid s (rest.foldl Reading.markup r) last (row ++ rest) := by
  induction rest generalizing r inner row with
  | nil =>
    cases walked
    simpa using amid
  | cons raw rest ih =>
    rw [List.forall_mem_cons] at cut outside
    rw [List.flatMap_cons, Edge.walk_append_eq_some] at walked
    obtain ⟨next, here, later⟩ := walked
    have done := ih (amid.markup cut.1 outside.1 here) cut.2 outside.2 later
    rwa [List.append_assoc] at done

/-- Markup whose elements come out even, without paragraphs, comes to nothing for a reading. -/
theorem idles_foldl_markup (s : Reading) {row : List Text} (cut : ∀ raw ∈ row, Item.Cut raw)
    (outside : ∀ raw ∈ row, Landmark.ofMarkup raw ∉ [.paragraphStart, .paragraphEnd])
    {inner : List Text} (walked : Edge.walk inner (row.flatMap Edge.scan) = some inner)
    (free : rowName ∉ inner ∧ cellName ∉ inner) : Idles s (row.foldl Reading.markup s) row := by
  have above : Above s s inner :=
    ⟨⟨[], rfl, (List.count_eq_zero.mpr free.1).symm, by simp⟩,
      ⟨[], rfl, (List.count_eq_zero.mpr free.2).symm⟩, fun _ _ => rfl, Nat.le_refl _⟩
  have start : Amid s s inner [] := ⟨by simp, ⟨rfl, rfl⟩, above, Nat.le_refl _, rfl, rfl⟩
  have done := start.foldl_markup cut outside walked
  rw [List.nil_append] at done
  obtain ⟨⟨rows, inRows, length, _⟩, ⟨cells, inCells, count⟩, spans, grown⟩ := done.above
  rw [List.count_eq_zero.mpr free.1, List.length_eq_zero_iff] at length
  rw [List.count_eq_zero.mpr free.2, List.length_eq_zero_iff] at count
  subst length count
  exact ⟨done.pieces, done.paragraphs, ⟨grown, spans⟩, done.cells, ⟨inRows, inCells⟩, done.pending,
    done.faults⟩

end Reading

end WordMerge
