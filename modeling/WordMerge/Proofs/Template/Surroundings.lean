import WordMerge.Proofs.Template.Lossless

namespace WordMerge

/-- What is open at a place. -/
structure Surroundings where
  /-- The number of paragraphs so far. -/
  paragraphs : Nat := 0
  /-- The open paragraphs by number, the innermost one first. -/
  opened : List Nat := []
  /-- Whether a text element is open. -/
  inText : Bool := false
  deriving DecidableEq

/-- What is open behind a landmark. -/
def Surroundings.pass (around : Surroundings) : Landmark → Surroundings
  | .paragraphStart =>
    { around with paragraphs := around.paragraphs + 1, opened := around.paragraphs :: around.opened }
  | .paragraphEnd => { around with opened := around.opened.tail }
  | .textStart => { around with inText := true }
  | .textEnd => { around with inText := false }
  | _ => around

namespace Piece

/-- The role that a piece has among the elements. -/
def landmark : Piece → Landmark
  | .verbatim xml => Landmark.ofMarkup xml
  | .tag _ => .other

/-- The role of the piece at a place. -/
def landmarkAt (pieces : Array Piece) (place : Nat) : Option Landmark :=
  pieces[place]?.map landmark

/-- What is open at a place. -/
def around (pieces : Array Piece) (place : Nat) : Surroundings :=
  ((pieces.toList.take place).map landmark).foldl Surroundings.pass {}

section Push

variable {pieces : Array Piece} {place : Nat}

theorem landmarkAt_push (inside : place < pieces.size) (piece : Piece) :
    landmarkAt (pieces.push piece) place = landmarkAt pieces place := by
  rw [landmarkAt, landmarkAt, Array.getElem?_push, if_neg (by omega)]

theorem landmarkAt_push_size (pieces : Array Piece) (piece : Piece) :
    landmarkAt (pieces.push piece) pieces.size = some piece.landmark := by
  rw [landmarkAt, Array.getElem?_push_size, Option.map_some]

theorem lt_size_of_landmarkAt {mark : Landmark} (found : landmarkAt pieces place = some mark) :
    place < pieces.size := by
  obtain ⟨piece, there, _⟩ := Option.map_eq_some_iff.mp found
  exact (Array.getElem?_eq_some_iff.mp there).1

/-- What stands behind a place does not change its surroundings. -/
theorem around_push (inside : place ≤ pieces.size) (piece : Piece) :
    around (pieces.push piece) place = around pieces place := by
  rw [around, around, Array.toList_push, List.take_append_of_le_length (by simpa using inside)]

/-- The surroundings behind a piece are those before it, with the piece passed. -/
theorem around_push_size (pieces : Array Piece) (piece : Piece) :
    around (pieces.push piece) (pieces.push piece).size
      = (around pieces pieces.size).pass piece.landmark := by
  have whole : (pieces.push piece).toList.take (pieces.push piece).size = pieces.toList ++ [piece] := by
    rw [Array.toList_push]
    exact List.take_of_length_le (by simp)
  have before : pieces.toList.take pieces.size = pieces.toList :=
    List.take_of_length_le (by simp)
  rw [around, around, whole, before, List.map_append, List.foldl_append]
  rfl

theorem around_congr {a b : Array Piece} (same : landmarkAt a = landmarkAt b) :
    around a = around b := by
  have landmarks : a.toList.map landmark = b.toList.map landmark := by
    apply List.ext_getElem?
    intro place
    have here := congrFun same place
    simpa [landmarkAt] using here
  funext place
  rw [around, around, List.map_take, List.map_take, landmarks]

end Push

end Piece

/-- Spans begin and end at markup of their kind. -/
def Span.Marked (pieces : Array Piece) (opens closes : Landmark) (spans : Array Span) : Prop :=
  ∀ (number : Nat) span, spans[number]? = some span →
    Piece.landmarkAt pieces span.start = some opens ∧
      ∀ stop, span.stop = some stop →
        span.start < stop ∧ Piece.landmarkAt pieces stop = some closes

namespace Span.Marked

open Piece

variable {pieces : Array Piece} {opens closes : Landmark} {spans : Array Span}

theorem push (marked : Marked pieces opens closes spans) (piece : Piece) :
    Marked (pieces.push piece) opens closes spans := by
  intro number span found
  obtain ⟨start, stops⟩ := marked number span found
  refine ⟨(landmarkAt_push (lt_size_of_landmarkAt start) piece).trans start, fun stop closed => ?_⟩
  obtain ⟨after, ends⟩ := stops stop closed
  exact ⟨after, (landmarkAt_push (lt_size_of_landmarkAt ends) piece).trans ends⟩

theorem congr (marked : Marked pieces opens closes spans) {others : Array Piece}
    (same : landmarkAt others = landmarkAt pieces) : Marked others opens closes spans := by
  unfold Marked
  rw [same]
  exact marked

theorem modify (marked : Marked pieces opens closes spans) (number : Nat) (change : Span → Span)
    (start : ∀ span, (change span).start = span.start)
    (stop : ∀ span, (change span).stop = span.stop) :
    Marked pieces opens closes (spans.modify number change) := by
  intro other span found
  rw [Array.getElem?_modify] at found
  split at found
  · obtain ⟨old, there, rfl⟩ := Option.map_eq_some_iff.mp found
    rw [start, stop]
    exact marked other old there
  · exact marked other span found

/-- A span begins at the markup that opens it. -/
theorem begin (marked : Marked pieces opens closes spans) {piece : Piece}
    (here : piece.landmark = opens) :
    Marked (pieces.push piece) opens closes (spans.push (.beginAt pieces.size)) := by
  intro number span found
  rw [Array.getElem?_push] at found
  split at found
  · cases found
    refine ⟨?_, nofun⟩
    rw [← here]
    exact landmarkAt_push_size pieces piece
  · exact marked.push piece number span found

/-- A span is closed at the markup that closes it. -/
theorem close (marked : Marked pieces opens closes spans) {piece : Piece}
    (here : piece.landmark = closes) (number : Nat) :
    Marked (pieces.push piece) opens closes
      (spans.modify number fun span => { span with stop := some pieces.size }) := by
  intro other span found
  rw [Array.getElem?_modify] at found
  split at found
  · obtain ⟨old, there, rfl⟩ := Option.map_eq_some_iff.mp found
    obtain ⟨start, -⟩ := marked other old there
    have inside := lt_size_of_landmarkAt start
    refine ⟨(landmarkAt_push inside piece).trans start, fun stop closed => ?_⟩
    cases closed
    refine ⟨inside, ?_⟩
    rw [← here]
    exact landmarkAt_push_size pieces piece
  · exact marked.push piece other span found

end Span.Marked

/-- Spans later in the reading: none is lost, those that were closed meanwhile end at the given place,
and their counts only grow. -/
def Span.Grown (size : Nat) (before after : Array Span) : Prop :=
  ∀ (number : Nat) span, before[number]? = some span →
    ∃ next, after[number]? = some next ∧ next.start = span.start ∧
      (next.stop = span.stop ∨ next.stop = some size) ∧ span.tags ≤ next.tags ∧
      (span.hasText = true → next.hasText = true)

theorem Span.grown_push (size : Nat) (spans : Array Span) (span : Span) :
    Grown size spans (spans.push span) := by
  intro number old found
  obtain ⟨inside, _⟩ := Array.getElem?_eq_some_iff.mp found
  have kept : (spans.push span)[number]? = some old := by
    rw [Array.getElem?_push, if_neg (by omega), found]
  exact ⟨old, kept, rfl, .inl rfl, Nat.le_refl _, id⟩

/-- Spans grow when they are closed and when tags and texts are counted in them. -/
theorem Span.grown_modify {size : Nat} (spans : Array Span) (number : Nat) {change : Span → Span}
    (start : ∀ span, (change span).start = span.start)
    (stop : ∀ span, (change span).stop = span.stop ∨ (change span).stop = some size)
    (tags : ∀ span, span.tags ≤ (change span).tags)
    (hasText : ∀ span, span.hasText = true → (change span).hasText = true) :
    Grown size spans (spans.modify number change) := by
  intro other old found
  rw [Array.getElem?_modify, found]
  split
  · exact ⟨_, rfl, start old, stop old, tags old, hasText old⟩
  · exact ⟨old, rfl, rfl, .inl rfl, Nat.le_refl _, id⟩

namespace Piece

/-- A tag at the place stands directly in the paragraph. -/
def TagIn (pieces : Array Piece) (number place : Nat) : Prop :=
  ∃ tag, pieces[place]? = some (.tag tag) ∧ tag.paragraph = some number

/-- Some XML is a text that is seen. -/
def Seen (xml : Text) : Prop :=
  xml.head? ≠ some '<' ∧ Text.blank xml = false

/-- A text that is seen stands at the place, directly in the paragraph. -/
def TextIn (pieces : Array Piece) (number place : Nat) : Prop :=
  ∃ xml, pieces[place]? = some (.verbatim xml) ∧ Seen xml ∧
    (around pieces place).inText = true ∧ (around pieces place).opened.head? = some number

/-- A place notes the innermost paragraph around it, and stands between the tags of that paragraph. -/
def Hosted (pieces : Array Piece) (spans : Array Span) (place : Nat) (paragraph : Option Nat) : Prop :=
  paragraph = (around pieces place).opened.head? ∧
    ∀ number, paragraph = some number → ∃ span, spans[number]? = some span ∧ span.start < place ∧
      ∀ stop, span.stop = some stop → place < stop

/-- Paragraphs know how many tags stand directly in them, as far as that there is none, one or
several, and whether texts do. -/
structure Counted (pieces : Array Piece) (spans : Array Span) : Prop where
  once : ∀ number place, TagIn pieces number place →
    ∃ span, spans[number]? = some span ∧ 1 ≤ span.tags
  twice : ∀ number a b, TagIn pieces number a → TagIn pieces number b → a ≠ b →
    ∃ span, spans[number]? = some span ∧ 2 ≤ span.tags
  texts : ∀ number place, TextIn pieces number place →
    ∃ span, spans[number]? = some span ∧ span.hasText = true

section Push

variable {pieces : Array Piece} {spans later : Array Span} {place number : Nat} {xml : Text}

theorem tagIn_push_verbatim :
    TagIn (pieces.push (.verbatim xml)) number place ↔ TagIn pieces number place := by
  unfold TagIn
  rw [Array.getElem?_push]
  split
  · next last =>
    have outside : pieces[place]? = none := Array.getElem?_eq_none_iff.mpr (by omega)
    simp [outside]
  · exact Iff.rfl

/-- A piece that is added is the only one that can be a new text. -/
theorem TextIn.of_push {piece : Piece} (found : TextIn (pieces.push piece) number place) :
    TextIn pieces number place ∨ place = pieces.size ∧ ∃ xml, piece = .verbatim xml ∧ Seen xml ∧
      (around pieces pieces.size).inText = true ∧
      (around pieces pieces.size).opened.head? = some number := by
  obtain ⟨xml, there, seen, inText, inner⟩ := found
  rw [Array.getElem?_push] at there
  split at there
  · next last =>
    subst last
    cases there
    rw [around_push (Nat.le_refl _)] at inText inner
    exact .inr ⟨rfl, xml, rfl, seen, inText, inner⟩
  · obtain ⟨inside, _⟩ := Array.getElem?_eq_some_iff.mp there
    rw [around_push (Nat.le_of_lt inside)] at inText inner
    exact .inl ⟨xml, there, seen, inText, inner⟩

/-- A place keeps the paragraph around it while pieces are added. -/
theorem Hosted.push {paragraph : Option Nat} (hosted : Hosted pieces spans place paragraph)
    (inside : place < pieces.size) (piece : Piece) :
    Hosted (pieces.push piece) spans place paragraph := by
  obtain ⟨inner, between⟩ := hosted
  exact ⟨by rw [around_push (Nat.le_of_lt inside), inner], between⟩

/-- A place keeps the paragraph around it while spans grow. -/
theorem Hosted.grow {paragraph : Option Nat} (hosted : Hosted pieces spans place paragraph)
    {size : Nat} (grown : Span.Grown size spans later) (inside : place < size) :
    Hosted pieces later place paragraph := by
  obtain ⟨inner, between⟩ := hosted
  refine ⟨inner, fun number same => ?_⟩
  obtain ⟨span, found, after, before⟩ := between number same
  obtain ⟨next, there, start, stops, -⟩ := grown number span found
  refine ⟨next, there, by rw [start]; exact after, fun stop closed => ?_⟩
  rcases stops with kept | new
  · exact before stop (kept ▸ closed)
  · rw [new] at closed
    cases closed
    exact inside

theorem Counted.grow (counted : Counted pieces spans) {size : Nat}
    (grown : Span.Grown size spans later) : Counted pieces later := by
  refine ⟨fun number place tag => ?_, fun number a b first second other => ?_,
    fun number place text => ?_⟩
  · obtain ⟨span, found, some⟩ := counted.once number place tag
    obtain ⟨next, there, -, -, tags, -⟩ := grown number span found
    exact ⟨next, there, Nat.le_trans some tags⟩
  · obtain ⟨span, found, some⟩ := counted.twice number a b first second other
    obtain ⟨next, there, -, -, tags, -⟩ := grown number span found
    exact ⟨next, there, Nat.le_trans some tags⟩
  · obtain ⟨span, found, some⟩ := counted.texts number place text
    obtain ⟨next, there, -, -, -, hasText⟩ := grown number span found
    exact ⟨next, there, hasText some⟩

/-- A text is counted in the paragraph in which it stands. -/
theorem Counted.push (counted : Counted pieces spans)
    (new : ∀ number, Seen xml → (around pieces pieces.size).inText = true →
      (around pieces pieces.size).opened.head? = some number →
      ∃ span, spans[number]? = some span ∧ span.hasText = true) :
    Counted (pieces.push (.verbatim xml)) spans := by
  refine ⟨fun number place tag => ?_, fun number a b first second other => ?_,
    fun number place text => ?_⟩
  · exact counted.once number place (tagIn_push_verbatim.mp tag)
  · exact counted.twice number a b (tagIn_push_verbatim.mp first) (tagIn_push_verbatim.mp second)
      other
  · rcases text.of_push with old | ⟨-, found, same, seen, inText, inner⟩
    · exact counted.texts number place old
    · cases same
      exact new number seen inText inner

end Push

end Piece

namespace Reading

open Piece

/-- A reading that has noted what stands around its places. -/
structure Noted (r : Reading) : Prop where
  paragraphs : Span.Marked r.pieces .paragraphStart .paragraphEnd r.paragraphs
  rows : Span.Marked r.pieces .rowStart .rowEnd r.rows
  around : Piece.around r.pieces r.pieces.size
    = ⟨r.paragraphs.size, r.openParagraphs, r.textStart.isSome⟩
  distinct : r.openParagraphs.Nodup
  unclosed : ∀ number ∈ r.openParagraphs, ∃ span, r.paragraphs[number]? = some span ∧
    span.stop = none
  slot : ∀ tag, r.pending = some tag → r.pieces[tag.slot]? = some (.verbatim []) ∧
    Hosted r.pieces r.paragraphs tag.slot tag.paragraph
  tags : ∀ (place : Nat) tag, r.pieces[place]? = some (.tag tag) →
    Hosted r.pieces r.paragraphs place tag.paragraph
  counted : Counted r.pieces r.paragraphs

theorem noted_start : Noted {} where
  paragraphs := by intro number span found; simp at found
  rows := by intro number span found; simp at found
  around := rfl
  distinct := List.nodup_nil
  unclosed := by simp
  slot := nofun
  tags := by intro place tag found; simp at found
  counted := by
    refine ⟨?_, ?_, ?_⟩
    · rintro number place ⟨tag, found, -⟩
      simp at found
    · rintro number a b ⟨tag, found, -⟩
      simp at found
    · rintro number place ⟨xml, found, -⟩
      simp at found

variable {r next : Reading}

theorem Noted.report (noted : r.Noted) (fault : TagFault) : (r.report fault).Noted :=
  ⟨noted.paragraphs, noted.rows, noted.around, noted.distinct, noted.unclosed, noted.slot,
    noted.tags, noted.counted⟩

theorem Noted.forget (noted : r.Noted) : Noted { r with pending := none } :=
  ⟨noted.paragraphs, noted.rows, noted.around, noted.distinct, noted.unclosed, nofun, noted.tags,
    noted.counted⟩

theorem Noted.abandon (noted : r.Noted) : r.abandon.Noted := by
  unfold Reading.abandon
  split
  · exact noted
  · exact noted.forget.report _

/-- A piece of XML is added, and the spans grow with it. -/
theorem Noted.grow (noted : r.Noted) {xml : Text}
    (pieces : next.pieces = r.pieces.push (.verbatim xml))
    (paragraphs : Span.Marked next.pieces .paragraphStart .paragraphEnd next.paragraphs)
    (rows : Span.Marked next.pieces .rowStart .rowEnd next.rows)
    (grown : Span.Grown r.pieces.size r.paragraphs next.paragraphs)
    (around : Surroundings.pass ⟨r.paragraphs.size, r.openParagraphs, r.textStart.isSome⟩
      (Landmark.ofMarkup xml) = ⟨next.paragraphs.size, next.openParagraphs, next.textStart.isSome⟩)
    (distinct : next.openParagraphs.Nodup)
    (unclosed : ∀ number ∈ next.openParagraphs, ∃ span, next.paragraphs[number]? = some span ∧
      span.stop = none)
    (pending : ∀ tag, next.pending = some tag → r.pending = some tag)
    (text : ∀ number, Seen xml → r.textStart.isSome = true → r.openParagraphs.head? = some number →
      ∃ span, next.paragraphs[number]? = some span ∧ span.hasText = true) : next.Noted := by
  have hosted {place : Nat} {paragraph : Option Nat} (inside : place < r.pieces.size)
      (old : Hosted r.pieces r.paragraphs place paragraph) :
      Hosted next.pieces next.paragraphs place paragraph := by
    rw [pieces]
    exact (old.grow grown inside).push inside _
  refine ⟨paragraphs, rows, ?_, distinct, unclosed, ?_, ?_, ?_⟩
  · rw [pieces, around_push_size, noted.around]
    exact around
  · intro tag under
    obtain ⟨empty, host⟩ := noted.slot tag (pending tag under)
    obtain ⟨inside, _⟩ := Array.getElem?_eq_some_iff.mp empty
    rw [pieces]
    exact ⟨getElem?_push_of_some empty _, pieces ▸ hosted inside host⟩
  · intro place tag found
    rw [pieces, Array.getElem?_push] at found
    split at found
    · cases found
    · obtain ⟨inside, _⟩ := Array.getElem?_eq_some_iff.mp found
      exact hosted inside (noted.tags place tag found)
  · rw [pieces]
    refine (noted.counted.grow grown).push fun number seen inText inner => ?_
    rw [noted.around] at inText inner
    exact text number seen inText inner

/-- XML that opens and closes nothing is added, and nothing is noted for it. -/
theorem Noted.push (noted : r.Noted) {xml : Text}
    (around : Surroundings.pass ⟨r.paragraphs.size, r.openParagraphs, r.textStart.isSome⟩
      (Landmark.ofMarkup xml) = ⟨r.paragraphs.size, r.openParagraphs, r.textStart.isSome⟩)
    (unseen : Seen xml → r.textStart.isSome = false) : (r.push (.verbatim xml)).Noted := by
  refine noted.grow rfl (noted.paragraphs.push _) (noted.rows.push _) ?_ around noted.distinct
    noted.unclosed (fun _ => id) fun number seen inText _ => ?_
  · intro number span found
    exact ⟨span, found, rfl, .inl rfl, Nat.le_refl _, id⟩
  · rw [unseen seen] at inText
    cases inText

theorem pass_plain {xml : Text} (plain : xml.head? ≠ some '<') (around : Surroundings) :
    around.pass (Landmark.ofMarkup xml) = around := by
  have none : Edge.ofMarkup? xml = none := by
    unfold Edge.ofMarkup?
    split <;> simp at plain ⊢
  rw [Landmark.ofMarkup, none]
  rfl

@[simp] theorem abandon_rows (r : Reading) : r.abandon.rows = r.rows := by
  unfold abandon
  split <;> rfl

/-- Markup is added that opens and closes no paragraph. -/
theorem Noted.beside (noted : r.Noted) {raw : Text} (opened : raw.head? = some '<')
    (pieces : next.pieces = r.pieces.push (.verbatim raw))
    (paragraphs : next.paragraphs = r.paragraphs)
    (openParagraphs : next.openParagraphs = r.openParagraphs) (pending : next.pending = r.pending)
    (rows : Span.Marked next.pieces .rowStart .rowEnd next.rows)
    (around : Surroundings.pass ⟨r.paragraphs.size, r.openParagraphs, r.textStart.isSome⟩
      (Landmark.ofMarkup raw) =
        ⟨r.paragraphs.size, r.openParagraphs, next.textStart.isSome⟩) : next.Noted := by
  have marked := noted.paragraphs.push (.verbatim raw)
  rw [← pieces, ← paragraphs] at marked
  refine noted.grow pieces marked rows ?_ ?_ ?_ ?_ ?_ fun _ seen => absurd opened seen.1
  · intro number span found
    exact ⟨span, paragraphs ▸ found, rfl, .inl rfl, Nat.le_refl _, id⟩
  · rw [paragraphs, openParagraphs]
    exact around
  · rw [openParagraphs]
    exact noted.distinct
  · rw [openParagraphs, paragraphs]
    exact noted.unclosed
  · rw [pending]
    exact fun _ => id

/-- The start tag of a paragraph is noted. -/
theorem Noted.openParagraph (noted : r.Noted) {raw : Text} (opened : raw.head? = some '<')
    (role : Landmark.ofMarkup raw = .paragraphStart) :
    (r.openParagraph.push (.verbatim raw)).Noted := by
  have fresh : r.paragraphs.size ∉ r.openParagraphs := by
    intro member
    obtain ⟨span, found, -⟩ := noted.unclosed _ member
    simp at found
  refine noted.grow rfl (noted.paragraphs.begin role) (noted.rows.push _) (Span.grown_push _ _ _)
    ?_ (List.nodup_cons.mpr ⟨fresh, noted.distinct⟩) ?_ (fun _ => id)
    fun _ seen => absurd opened seen.1
  · simp [role, Surroundings.pass, Reading.openParagraph, Reading.push]
  · intro number member
    rcases List.mem_cons.mp member with rfl | old
    · exact ⟨_, Array.getElem?_push_size, rfl⟩
    · obtain ⟨span, found, stop⟩ := noted.unclosed number old
      obtain ⟨inside, _⟩ := Array.getElem?_eq_some_iff.mp found
      have kept : (r.paragraphs.push (.beginAt r.pieces.size))[number]? = some span := by
        rw [Array.getElem?_push, if_neg (by omega), found]
      exact ⟨span, kept, stop⟩

/-- The end tag of a paragraph is noted. -/
theorem Noted.closeParagraph (noted : r.Noted) {raw : Text} (opened : raw.head? = some '<')
    (role : Landmark.ofMarkup raw = .paragraphEnd) :
    (r.closeParagraph.push (.verbatim raw)).Noted := by
  cases inner : r.openParagraphs with
  | nil =>
    have none : r.closeParagraph = r.abandon := by simp [Reading.closeParagraph, inner]
    rw [none]
    refine noted.abandon.push ?_ fun seen => absurd opened seen.1
    simp [role, Surroundings.pass, inner]
  | cons number rest =>
    have distinct := noted.distinct
    rw [inner, List.nodup_cons] at distinct
    rw [push_closeParagraph inner]
    have ends : (Piece.verbatim raw).landmark = .paragraphEnd := role
    refine noted.grow rfl (noted.paragraphs.close ends number) ?_
      (Span.grown_modify _ number (fun _ => rfl) (fun _ => .inr rfl) (fun _ => Nat.le_refl _)
        fun _ => id) ?_ distinct.2 ?_ ?_ fun _ seen => absurd opened seen.1
    · dsimp only
      rw [abandon_rows]
      exact noted.rows.push _
    · simp [role, Surroundings.pass, inner]
    · intro other member
      obtain ⟨span, found, stop⟩ := noted.unclosed other (by simp [inner, member])
      have different : number ≠ other := fun same => distinct.1 (same ▸ member)
      exact ⟨span, by rw [Array.getElem?_modify, if_neg different, found], stop⟩
    · intro tag under
      simp at under

/-- The end tag of a row is noted. -/
theorem Noted.closeRow (noted : r.Noted) {raw : Text} (opened : raw.head? = some '<')
    (role : Landmark.ofMarkup raw = .rowEnd) : (r.closeRow.push (.verbatim raw)).Noted := by
  have passed : Surroundings.pass ⟨r.paragraphs.size, r.openParagraphs, r.textStart.isSome⟩
      (Landmark.ofMarkup raw) = ⟨r.paragraphs.size, r.openParagraphs, r.textStart.isSome⟩ := by
    rw [role]
    rfl
  unfold Reading.closeRow
  split
  · exact noted.push passed fun seen => absurd opened seen.1
  · next number rest _ =>
    have ends : (Piece.verbatim raw).landmark = .rowEnd := role
    exact noted.beside opened rfl rfl rfl rfl (noted.rows.close ends number) passed

theorem Noted.markup (noted : r.Noted) {raw : Text} (opened : raw.head? = some '<') :
    (r.markup raw).Noted := by
  unfold Reading.markup
  cases role : Landmark.ofMarkup raw with
  | paragraphStart => exact noted.openParagraph opened role
  | paragraphEnd => exact noted.closeParagraph opened role
  | rowStart =>
    exact noted.beside opened rfl rfl rfl rfl (noted.rows.begin role) (by rw [role]; rfl)
  | rowEnd => exact noted.closeRow opened role
  | textStart | textEnd | cellStart | cellEnd | lineBreak | other =>
    exact noted.beside opened rfl rfl rfl rfl (noted.rows.push _) (by rw [role]; rfl)

/-- A text is noted in its paragraph. -/
theorem Noted.plain (noted : r.Noted) {text : Text} (plain : text.head? ≠ some '<') :
    (r.plain text).Noted := by
  have around (next : Reading) : Surroundings.pass
      ⟨next.paragraphs.size, next.openParagraphs, next.textStart.isSome⟩ (Landmark.ofMarkup text)
        = ⟨next.paragraphs.size, next.openParagraphs, next.textStart.isSome⟩ := pass_plain plain _
  have kept : Span.Grown r.pieces.size r.paragraphs r.paragraphs := fun number span found =>
    ⟨span, found, rfl, .inl rfl, Nat.le_refl _, id⟩
  unfold Reading.plain
  -- Only text in a paragraph that is not blank changes what is noted: the paragraph has other text.
  by_cases empty : text.isEmpty = true
  · rw [if_pos empty]
    exact noted
  · rw [if_neg empty]
    dsimp only
    cases inner : r.openParagraphs with
    | nil =>
      refine noted.grow rfl (noted.paragraphs.push _) (noted.rows.push _) kept (around r)
        noted.distinct noted.unclosed (fun _ => id) fun number _ _ host => ?_
      simp [inner] at host
    | cons number rest =>
      dsimp only
      by_cases blank : Text.blank text = true
      · rw [if_pos blank]
        refine noted.grow rfl (noted.paragraphs.push _) (noted.rows.push _) kept (around r)
          noted.distinct noted.unclosed (fun _ => id) fun _ seen _ _ => ?_
        rw [seen.2] at blank
        cases blank
      · rw [if_neg blank]
        refine noted.grow rfl ?_ (noted.rows.push _)
          (Span.grown_modify _ number (fun _ => rfl) (fun _ => .inl rfl) (fun _ => Nat.le_refl _)
            fun _ _ => rfl) ?_ (inner ▸ noted.distinct) ?_ (fun _ => id) fun other _ _ host => ?_
        · exact (noted.paragraphs.push _).modify number _ (fun _ => rfl) fun _ => rfl
        · rw [around r]
          simp [Reading.push, inner]
        · intro other member
          obtain ⟨span, found, stop⟩ := noted.unclosed other (inner ▸ member)
          simp only [Reading.push]
          rw [Array.getElem?_modify, found]
          split
          · exact ⟨_, rfl, stop⟩
          · exact ⟨span, rfl, stop⟩
        · have same : number = other := by simpa [inner] using host
          subst same
          obtain ⟨span, found, -⟩ := noted.unclosed number (by simp [inner])
          simp only [Reading.push]
          exact ⟨_, by rw [Array.getElem?_modify, if_pos rfl, found, Option.map_some], rfl⟩

theorem Noted.beginTag (noted : r.Noted) : r.beginTag.Noted := by
  have pushed : (r.push (.verbatim [])).Noted :=
    noted.push (pass_plain (by simp) _) fun seen => absurd seen.2 (by decide)
  refine ⟨pushed.paragraphs, pushed.rows, pushed.around, pushed.distinct, pushed.unclosed, ?_,
    pushed.tags, pushed.counted⟩
  intro tag same
  cases same
  refine ⟨Array.getElem?_push_size, ?_, fun number host => ?_⟩
  · have before : Piece.around r.beginTag.pieces r.pieces.size = Piece.around r.pieces r.pieces.size :=
      around_push (Nat.le_refl _) _
    dsimp only
    rw [before, noted.around]
  · obtain ⟨rest, inner⟩ := List.head?_eq_some_iff.mp host
    obtain ⟨span, found, open_⟩ := noted.unclosed number (by simp [inner])
    obtain ⟨start, -⟩ := noted.paragraphs number span found
    refine ⟨span, found, lt_size_of_landmarkAt start, fun stop closed => ?_⟩
    rw [open_] at closed
    cases closed

theorem Noted.extend (noted : r.Noted) {tag : PendingTag} (under : r.pending = some tag)
    (raw : Text) : Noted { r with pending := some { tag with raw := raw } } := by
  refine ⟨noted.paragraphs, noted.rows, noted.around, noted.distinct, noted.unclosed, ?_, noted.tags,
    noted.counted⟩
  intro found same
  cases same
  exact noted.slot tag under

/-- Finishing a tag changes no landmark. -/
theorem landmarkAt_finished {pieces : Array Piece} {pending : PendingTag}
    (slot : pieces[pending.slot]? = some (.verbatim []))
    (start : ∀ place, pending.textStart = some place → StartsText pieces place)
    (tag : PlacedTag) : landmarkAt (finished pieces pending tag) = landmarkAt pieces := by
  funext place
  unfold landmarkAt
  rcases finished_cases slot start tag place with
    ⟨rfl, here⟩ | ⟨raw, starts, before, here⟩ | ⟨_, here⟩
  · rw [here, slot]
    rfl
  · have edge := starts.edge
    have preserved := starts.preserve.edge
    rw [here, before]
    simp [landmark, Landmark.ofMarkup, edge, preserved]
  · rw [here]

theorem head?_preserveSpace {raw : Text} (starts : Edge.TextTag raw) :
    (preserveSpace raw).head? = some '<' :=
  starts.preserve.cut.opened

theorem marked_counting {pieces : Array Piece} {opens closes : Landmark} {spans : Array Span}
    (marked : Span.Marked pieces opens closes spans) (own : Option Nat) :
    Span.Marked pieces opens closes (counting spans own) := by
  cases own with
  | none => exact marked
  | some number =>
    exact marked.modify number (fun span => { span with tags := span.tags + 1 }) (fun _ => rfl)
      fun _ => rfl

theorem grown_counting (size : Nat) (spans : Array Span) (own : Option Nat) :
    Span.Grown size spans (counting spans own) := by
  cases own with
  | none => exact fun number span found => ⟨span, found, rfl, .inl rfl, Nat.le_refl _, id⟩
  | some number =>
    exact @Span.grown_modify size spans number (fun span => { span with tags := span.tags + 1 })
      (fun _ => rfl) (fun _ => .inl rfl) (fun span => Nat.le_succ span.tags) fun _ => id

section Finished

variable {pieces : Array Piece} {spans : Array Span} {pending : PendingTag} {tag : PlacedTag}
  {number place : Nat}

/-- A finished tag stands in the paragraph that it notes; the others stay where they are. -/
theorem tagIn_finished_cases (slot : pieces[pending.slot]? = some (.verbatim []))
    (noted : tag.paragraph = pending.paragraph)
    (found : TagIn (finished pieces pending tag) number place) :
    place = pending.slot ∧ pending.paragraph = some number ∨
      place ≠ pending.slot ∧ TagIn pieces number place := by
  obtain ⟨other, there, inside⟩ := found
  rcases tag_of_finished slot tag there with ⟨here, rfl⟩ | ⟨different, old⟩
  · exact .inl ⟨here, noted.symm.trans inside⟩
  · exact .inr ⟨different, other, old, inside⟩

theorem textIn_of_finished (slot : pieces[pending.slot]? = some (.verbatim []))
    (start : ∀ place, pending.textStart = some place → StartsText pieces place)
    (found : TextIn (finished pieces pending tag) number place) : TextIn pieces number place := by
  obtain ⟨xml, there, seen, inText, inner⟩ := found
  rw [around_congr (landmarkAt_finished slot start tag)] at inText inner
  rcases finished_cases slot start tag place with
    ⟨rfl, here⟩ | ⟨raw, starts, before, here⟩ | ⟨_, here⟩
  · rw [here] at there
    cases there
  · rw [here] at there
    cases there
    exact absurd (head?_preserveSpace starts) seen.1
  · exact ⟨xml, here.symm.trans there, seen, inText, inner⟩

/-- A new tag is counted for the paragraph that it notes. -/
theorem counted_finished (counted : Counted pieces spans)
    (slot : pieces[pending.slot]? = some (.verbatim []))
    (start : ∀ place, pending.textStart = some place → StartsText pieces place)
    (noted : tag.paragraph = pending.paragraph)
    (host : Hosted pieces spans pending.slot pending.paragraph) :
    Counted (finished pieces pending tag) (counting spans pending.paragraph) := by
  have kept := counted.grow (grown_counting pieces.size spans pending.paragraph)
  have more {number : Nat} {span : Span} (own : pending.paragraph = some number)
      (found : spans[number]? = some span) :
      (counting spans pending.paragraph)[number]? = some { span with tags := span.tags + 1 } := by
    rw [getElem?_counting, found, Option.map_some, if_pos own]
  refine ⟨fun number place found => ?_, fun number a b first second other => ?_,
    fun number place found => kept.texts number place (textIn_of_finished slot start found)⟩
  · rcases tagIn_finished_cases slot noted found with ⟨rfl, inside⟩ | ⟨_, old⟩
    · obtain ⟨span, there, -⟩ := host.2 number inside
      exact ⟨_, more inside there, Nat.le_add_left 1 _⟩
    · exact kept.once number place old
  · rcases tagIn_finished_cases slot noted first with ⟨rfl, inside⟩ | ⟨_, oldFirst⟩
    · rcases tagIn_finished_cases slot noted second with ⟨rfl, _⟩ | ⟨_, old⟩
      · exact absurd rfl other
      · obtain ⟨span, there, some⟩ := counted.once number b old
        exact ⟨_, more inside there, Nat.succ_le_succ some⟩
    · rcases tagIn_finished_cases slot noted second with ⟨rfl, inside⟩ | ⟨_, oldSecond⟩
      · obtain ⟨span, there, some⟩ := counted.once number a oldFirst
        exact ⟨_, more inside there, Nat.succ_le_succ some⟩
      · exact kept.twice number a b oldFirst oldSecond other

end Finished

/-- A finished tag is noted in its paragraph. -/
theorem Noted.finishTag (noted : r.Noted) {pending : PendingTag} (under : r.pending = some pending)
    (starts : ∀ place, pending.textStart = some place → StartsText r.pieces place) :
    Noted ({ r with pending := none }.finishTag pending) := by
  obtain ⟨slot, host⟩ := noted.slot pending under
  obtain ⟨inside, _⟩ := Array.getElem?_eq_some_iff.mp slot
  rcases { r with pending := none }.finishTag_cases pending with
    ⟨fault, same⟩ | ⟨placed, _, ⟨own, _⟩, same⟩
  · rw [same]
    exact noted.forget.report _
  · rw [same]
    have landmarks := landmarkAt_finished slot starts placed
    have around := around_congr landmarks
    have hosted {place : Nat} {paragraph : Option Nat} (before : place < r.pieces.size)
        (old : Hosted r.pieces r.paragraphs place paragraph) :
        Hosted (finished r.pieces pending placed) (counting r.paragraphs pending.paragraph) place
          paragraph := by
      obtain ⟨here, between⟩ := old.grow (grown_counting _ _ pending.paragraph) before
      exact ⟨by rw [around]; exact here, between⟩
    refine ⟨marked_counting (noted.paragraphs.congr landmarks) _, noted.rows.congr landmarks, ?_,
      noted.distinct, ?_, nofun, ?_, counted_finished noted.counted slot starts own host⟩
    · show Piece.around (finished r.pieces pending placed) (finished r.pieces pending placed).size = _
      rw [around, size_finished, size_counting]
      exact noted.around
    · intro number member
      obtain ⟨span, found, stop⟩ := noted.unclosed number member
      dsimp only
      rw [getElem?_counting, found, Option.map_some]
      exact ⟨_, rfl, by split <;> exact stop⟩
    · intro place other found
      rcases tag_of_finished slot placed found with ⟨rfl, rfl⟩ | ⟨_, old⟩
      · rw [own]
        exact hosted inside host
      · obtain ⟨before, _⟩ := Array.getElem?_eq_some_iff.mp old
        exact hosted before (noted.tags place other old)

/-- A reading that has noted what stands around its places, and knows its text elements. -/
structure Aware (r : Reading) : Prop where
  noted : r.Noted
  starts : TextStarts r.pieces r.textStart r.pending

theorem Aware.abandon (aware : r.Aware) : r.abandon.Aware := by
  refine ⟨aware.noted.abandon, ?_⟩
  rw [abandon_pieces, abandon_textStart, abandon_pending]
  exact aware.starts.forget

theorem Aware.plain (aware : r.Aware) {text : Text} (plain : text.head? ≠ some '<') :
    (r.plain text).Aware := by
  refine ⟨aware.noted.plain plain, ?_⟩
  rcases r.plain_cases text with ⟨_, same⟩ | same | ⟨number, same⟩
  · rw [same]
    exact aware.starts
  · rw [same]
    exact aware.starts.push _
  · rw [same]
    exact aware.starts.push _

theorem Aware.beginTag (aware : r.Aware) : r.beginTag.Aware := by
  have pushed := aware.starts.push (.verbatim [])
  refine ⟨aware.noted.beginTag, pushed.around, fun tag same => ?_⟩
  cases same
  exact pushed.around

theorem Aware.extend (aware : r.Aware) {tag : PendingTag} (under : r.pending = some tag)
    (raw : Text) : Aware { r with pending := some { tag with raw := raw } } := by
  refine ⟨aware.noted.extend under raw, aware.starts.around, fun found same => ?_⟩
  cases same
  exact aware.starts.brace tag under

theorem Aware.finishTag (aware : r.Aware) {pending : PendingTag} (under : r.pending = some pending) :
    Aware ({ r with pending := none }.finishTag pending) := by
  have start := aware.starts.brace pending under
  obtain ⟨slot, -⟩ := aware.noted.slot pending under
  refine ⟨aware.noted.finishTag under start, ?_⟩
  rcases { r with pending := none }.finishTag_cases pending with
    ⟨fault, same⟩ | ⟨tag, _, _, same⟩
  · rw [same]
    exact aware.starts.forget
  · rw [same]
    exact ⟨fun place around =>
      StartsText.finished slot start tag (aware.starts.around place around), nofun⟩

theorem Aware.passes (aware : r.Aware) {before rest : Text} {final : Reading}
    (passes : r.Passes before rest final) (plain : '<' ∉ before) (plainRest : '<' ∉ rest) :
    final.Aware := by
  have head {text : Text} (none : '<' ∉ text) : text.reverse.head? ≠ some '<' := by
    intro first
    exact none (List.mem_reverse.mp (List.mem_of_head? first))
  induction passes with
  | settle _ => exact aware.plain (head plain)
  | wait _ => exact aware
  | first _ _ ih =>
    exact ih (aware.plain (head plain)).beginTag (by simp) (List.not_mem_of_not_mem_cons plainRest)
  | again _ _ ih =>
    exact ih aware.abandon.beginTag (by simp) (List.not_mem_of_not_mem_cons plainRest)
  | finish under _ ih =>
    exact ih (aware.finishTag under) (by simp) (List.not_mem_of_not_mem_cons plainRest)
  | unopened _ _ ih =>
    rw [List.mem_cons, not_or] at plainRest
    exact ih ⟨aware.noted.report _, aware.starts⟩ (by simpa using plain) plainRest.2
  | extend under _ _ _ ih =>
    exact ih (aware.extend under _) (by simp) (List.not_mem_of_not_mem_cons plainRest)
  | hold _ _ _ _ ih =>
    rw [List.mem_cons, not_or] at plainRest
    exact ih aware (by simpa using ⟨plainRest.1, plain⟩) plainRest.2

/-- Passing an item notes what stands around its place. -/
theorem Noted.step (noted : r.Noted) (starts : TextStarts r.pieces r.textStart r.pending)
    {item : Item} (opened : ∀ raw, item = .markup raw → raw.head? = some '<')
    (plain : ∀ raw, item = .text raw → '<' ∉ raw) : (r.step item).Noted := by
  cases item with
  | markup raw => exact noted.markup (opened raw rfl)
  | text raw =>
    have none := plain raw rfl
    unfold Reading.step
    dsimp only
    split
    · have aware : r.Aware := ⟨noted, starts⟩
      exact (aware.passes (r.passes_characters [] raw) (by simp) none).noted
    · next outside =>
      refine noted.push (pass_plain (fun first => none (List.mem_of_head? first)) _) fun _ => ?_
      simpa using outside

theorem markup_pending_cases (r : Reading) (raw : Text) :
    (r.markup raw).pending = r.pending ∨ (r.markup raw).pending = none := by
  unfold Reading.markup
  cases Landmark.ofMarkup raw with
  | paragraphEnd =>
    have given : r.closeParagraph.pending = none := by
      unfold closeParagraph
      dsimp only
      split <;> simp
    exact .inr given
  | rowEnd => simp only [enter, Reading.push, closeRow]; split <;> exact .inl rfl
  | _ => exact .inl rfl

theorem Aware.markup (aware : r.Aware) {raw : Text} (cut : Item.Cut raw) : (r.markup raw).Aware := by
  refine ⟨aware.noted.markup cut.opened, ?_⟩
  have pushed := aware.starts.push (.verbatim raw)
  have around : TextStarts (r.markup raw).pieces (r.markup raw).textStart r.pending := by
    rw [markup_pieces, markup_textStart]
    cases role : Landmark.ofMarkup raw with
    | textStart => exact aware.starts.enter ⟨cut, (Landmark.ofMarkup_eq_iff rfl).mp role⟩
    | textEnd => exact pushed.leave
    | _ => exact pushed
  rcases r.markup_pending_cases raw with same | none
  · rw [same]
    exact around
  · rw [none]
    exact around.forget

theorem Aware.step (aware : r.Aware) {item : Item} (fits : Fits (fun _ => True) item) :
    (r.step item).Aware := by
  cases item with
  | markup raw => exact aware.markup fits
  | text raw =>
    have plain : ∀ other, Item.text raw = .text other → '<' ∉ other := by
      rintro other ⟨⟩
      exact fits.1
    have noted : (r.step (.text raw)).Noted := aware.noted.step aware.starts nofun plain
    unfold Reading.step at noted ⊢
    dsimp only at noted ⊢
    split
    · exact aware.passes (r.passes_characters [] raw) (by simp) fits.1
    · next outside =>
      rw [if_neg outside] at noted
      exact ⟨noted, aware.starts.push _⟩

/-- Through any part the surroundings are noted. -/
theorem Aware.foldl_step {items : List Item} (aware : r.Aware)
    (fits : ∀ item ∈ items, Fits (fun _ => True) item) : (items.foldl Reading.step r).Aware := by
  induction items generalizing r with
  | nil => exact aware
  | cons item rest ih =>
    rw [List.forall_mem_cons] at fits
    exact ih (aware.step fits.1) fits.2

/-- Any part is read with what stands around its places; only the last item may be markup that has
no end. -/
theorem noted_scan (source : Text) : ((Item.scan source).foldl Reading.step {}).Noted := by
  rcases fits_scan source with none | ⟨init, last, split, fits, opened, plain⟩
  · rw [none]
    exact noted_start
  · have aware : (init.foldl Reading.step {}).Aware := Aware.foldl_step ⟨noted_start, nofun, nofun⟩ fits
    rw [split, List.foldl_append, List.foldl_cons, List.foldl_nil]
    exact aware.noted.step aware.starts opened plain

end Reading

/-- A part taken to pieces, with what stands around its places noted. -/
structure Layout.Noted (layout : Layout) : Prop where
  paragraphs : Span.Marked layout.pieces .paragraphStart .paragraphEnd layout.paragraphs
  rows : Span.Marked layout.pieces .rowStart .rowEnd layout.rows
  tags : ∀ (place : Nat) tag, layout.pieces[place]? = some (.tag tag) →
    Piece.Hosted layout.pieces layout.paragraphs place tag.paragraph
  counted : Piece.Counted layout.pieces layout.paragraphs

theorem Layout.noted_ofPart (source : Text) : (Layout.ofPart source).Noted := by
  have noted := (Reading.noted_scan source).abandon
  exact ⟨noted.paragraphs, noted.rows, noted.tags, noted.counted⟩

end WordMerge
