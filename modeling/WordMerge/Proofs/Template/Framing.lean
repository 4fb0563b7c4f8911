import WordMerge.Proofs.Template.Arrivals
import WordMerge.Proofs.Template.Pairing
import WordMerge.Proofs.Template.Rows

namespace WordMerge

namespace Shift

/-- A closed span behind all of these. -/
def closed (shift : Shift) (span : ClosedSpan) : ClosedSpan :=
  ⟨shift.places + span.first, shift.places + span.last, span.single⟩

/-- What becomes of a section behind all of these. -/
def widening (shift : Shift) : Widening → Widening
  | .inline => .inline
  | .row span => .row (shift.closed span)
  | .paragraphs first last => .paragraphs (shift.closed first) (shift.closed last)

variable (shift : Shift)

theorem holdsSingleTag_span (span : Span) :
    (shift.span span).holdsSingleTag = span.holdsSingleTag := by
  rw [Span.holdsSingleTag, Span.holdsSingleTag, Shift.span, Option.isSome_map]

theorem map_add_inj (count : Nat) (a b : Option Nat) :
    a.map (count + ·) = b.map (count + ·) ↔ a = b :=
  (Option.map_injective fun _ _ => Nat.add_left_cancel).eq_iff

/-- A span is found behind other spans as it is by itself. -/
theorem ofSpans?_closed {outer inner : Array Span} {count : Nat} {id : Option Nat}
    (there : ∀ number, id = some number → outer[count + number]? = inner[number]?.map shift.span) :
    ClosedSpan.ofSpans? outer (id.map (count + ·)) =
      (ClosedSpan.ofSpans? inner id).map shift.closed := by
  cases id with
  | none => rfl
  | some number =>
    simp only [ClosedSpan.ofSpans?, Option.map_some, Option.bind_eq_bind, Option.bind_some,
      there number rfl]
    cases inner[number]? with
    | none => rfl
    | some span =>
      simp only [Option.map_some, Option.bind_some, holdsSingleTag_span]
      obtain ⟨start, stop, tags, hasText⟩ := span
      cases stop <;> rfl

/-- In a frame the same tags are sent in front of the shifted places. -/
theorem inFront_pair (pair : Nat × Nat) (place : Nat) (widening : Widening) :
    Plan.inFront (shift.pair pair) (shift.places + place) (shift.widening widening) =
      (Plan.inFront pair place widening).map (shift.places + ·) := by
  cases widening with
  | inline => rfl
  | row span =>
    simp only [Shift.widening, Plan.inFront, Shift.closed, Nat.add_left_cancel_iff]
    split <;> rfl
  | paragraphs first last =>
    simp only [Shift.widening, Plan.inFront, Shift.closed, Nat.add_left_cancel_iff, List.map_append]
    congr 1 <;> split <;> rfl

/-- In a frame the same tags are sent behind the shifted places. -/
theorem behind_pair (pair : Nat × Nat) (place : Nat) (widening : Widening) :
    Plan.behind (shift.pair pair) (shift.places + place) (shift.widening widening) =
      (Plan.behind pair place widening).map (shift.places + ·) := by
  cases widening with
  | inline => rfl
  | row span =>
    simp only [Shift.widening, Plan.behind, Shift.closed, Nat.add_left_cancel_iff]
    split <;> rfl
  | paragraphs first last => rfl

theorem mem_moversOf_pair (pair : Nat × Nat) (place : Nat) (widening : Widening) :
    shift.places + place ∈ Plan.moversOf (shift.pair pair) (shift.widening widening) ↔
      place ∈ Plan.moversOf pair widening := by
  cases widening <;> simp [Shift.widening, Plan.moversOf, Shift.pair]

theorem droppedBy_widening (place : Nat) (widening : Widening) :
    Plan.DroppedBy (shift.places + place) (shift.widening widening) ↔
      Plan.DroppedBy place widening := by
  cases widening with
  | inline => rfl
  | row span => rfl
  | paragraphs first last =>
    simp only [Shift.widening, Plan.DroppedBy, Shift.closed, Nat.add_le_add_iff_left]

/-- The places that matter to a section move with the section. -/
theorem anchorsOf_widening (widening : Widening) :
    Plan.anchorsOf (shift.widening widening) =
      (Plan.anchorsOf widening).map (shift.places + ·) := by
  cases widening <;> rfl

end Shift

namespace Layout

/-- A layout that has another one behind some of its places, paragraphs, rows and cells. The
numbers that the tags of the inner layout note are those of its own paragraphs and rows. -/
structure Holds (shift : Shift) (outer inner : Layout) : Prop where
  pieces : ∀ place < inner.pieces.size,
    outer.pieces[shift.places + place]? = inner.pieces[place]?.map shift.piece
  paragraphs : ∀ (place : Nat) tag, inner.pieces[place]? = some (.tag tag) →
    ∀ number, tag.paragraph = some number →
      outer.paragraphs[shift.paragraphs + number]? = inner.paragraphs[number]?.map shift.span
  rows : ∀ (place : Nat) tag, inner.pieces[place]? = some (.tag tag) →
    ∀ number, tag.row = some number →
      outer.rows[shift.rows + number]? = inner.rows[number]?.map shift.span

namespace Holds

variable {shift : Shift} {outer inner : Layout} {options : RenderOptions}

/-- The sections of the inner layout widen as they do by themselves. -/
theorem widening_pair (holds : Holds shift outer inner) {pair : Nat × Nat}
    (member : pair ∈ inner.sections) : outer.widening options (shift.pair pair) =
      shift.widening (inner.widening options pair) := by
  obtain ⟨⟨t, opens, _⟩, ⟨u, closes, _⟩⟩ := SectionPairs.ofPieces_sections member
  obtain ⟨inside, inside'⟩ := lt_size_of_mem_sections member
  have opens' := holds.pieces pair.1 inside
  have closes' := holds.pieces pair.2 inside'
  rw [opens] at opens'
  rw [closes] at closes'
  have row : Widening.row? outer (shift.tag t) (shift.tag u) =
      (Widening.row? inner t u).map shift.closed := by
    have span := shift.ofSpans?_closed (holds.rows pair.1 t opens)
    simp only [Widening.row?, Shift.tag, Option.isSome_map, Shift.map_add_inj, ne_eq, span]
    split <;> rfl
  have paragraphs : Widening.paragraphs? outer (shift.tag t) (shift.tag u) =
      (Widening.paragraphs? inner t u).map fun both =>
        (shift.closed both.1, shift.closed both.2) := by
    have first := shift.ofSpans?_closed (holds.paragraphs pair.1 t opens)
    have last := shift.ofSpans?_closed (holds.paragraphs pair.2 u closes)
    simp only [Widening.paragraphs?, Shift.tag, Shift.map_add_inj, first, last]
    split
    · rfl
    · cases ClosedSpan.ofSpans? inner.paragraphs t.paragraph with
      | none => rfl
      | some a =>
        cases ClosedSpan.ofSpans? inner.paragraphs u.paragraph with
        | none => rfl
        | some b =>
          simp only [Option.map_some, Shift.closed, Nat.add_lt_add_iff_left]
          split <;> rfl
  simp only [widening, tagAt?, Shift.pair, opens, closes, opens', closes', Option.map_some,
    Shift.piece, Option.bind_some, Piece.tag?, Widening.ofTags, row, paragraphs]
  cases Widening.row? inner t u with
  | some span => rfl
  | none =>
    cases options.paragraphLoop with
    | false => rfl
    | true => cases Widening.paragraphs? inner t u <;> rfl

/-- Outside the inner layout stands nothing that matters to its sections. -/
theorem not_mem_anchorsOf (holds : Holds shift outer inner) (noted : inner.Noted) {pair : Nat × Nat}
    (member : pair ∈ inner.sections) {place : Nat}
    (off : place < shift.places ∨ shift.places + inner.pieces.size ≤ place) :
    place ∉ Plan.anchorsOf (outer.widening options (shift.pair pair)) := by
  rw [holds.widening_pair member, Shift.anchorsOf_widening, List.mem_map]
  rintro ⟨anchor, known, rfl⟩
  have := noted.lt_size_of_mem_anchorsOf known
  omega

end Holds

end Layout

theorem flatMap_zipIdx_first {α β : Type} {l : List α} (filled : l ≠ []) (start : Nat)
    (b : List β) :
    ((l.zipIdx start).flatMap fun entry => if entry.2 = start then b else []) = b := by
  obtain ⟨first, rest, rfl⟩ := List.exists_cons_of_ne_nil filled
  have later : ((rest.zipIdx (start + 1)).flatMap fun entry =>
      if entry.2 = start then b else []) = [] := by
    refine List.flatMap_eq_nil_iff.mpr fun entry member => ?_
    exact if_neg (Nat.ne_of_gt (List.le_snd_of_mem_zipIdx member))
  rw [List.zipIdx_cons, List.flatMap_cons, later, if_pos rfl, List.append_nil]

/-- Two paragraphs with one tag each: the tags, and the XML in front of each tag and behind it. -/
structure TagFrame where
  opening : PlacedTag
  closing : PlacedTag
  opened : List Text × List Text
  closed : List Text × List Text

namespace TagFrame

variable (frame : TagFrame)

/-- The pieces of the first paragraph. -/
def front : List Piece :=
  frame.opened.1.map .verbatim ++ .tag frame.opening :: frame.opened.2.map .verbatim

/-- The pieces of the last paragraph. -/
def back : List Piece :=
  frame.closed.1.map .verbatim ++ .tag frame.closing :: frame.closed.2.map .verbatim

/-- The places of the two tags around some pieces. -/
def own (size : Nat) : Nat × Nat :=
  (frame.opened.1.length, frame.front.length + size + frame.closed.1.length)

theorem front_ne_nil : frame.front ≠ [] := by simp [front]

theorem back_ne_nil : frame.back ≠ [] := by simp [back]

end TagFrame

namespace Layout

/-- A layout that has another one between the two paragraphs of a frame. The section tags of the
inner one are nested as they are written. -/
structure Framed (shift : Shift) (frame : TagFrame) (outer inner : Layout) : Prop where
  holds : Holds shift outer inner
  pieces : outer.pieces.toList = frame.front ++ (inner.pieces.toList.map shift.piece ++ frame.back)
  places : shift.places = frame.front.length
  opens : frame.opening.kind = .opening
  closes : frame.closing.kind = .closing
  name : frame.closing.name = frame.opening.name
  first : ClosedSpan.ofSpans? outer.paragraphs frame.opening.paragraph =
    some ⟨0, shift.places - 1, true⟩
  last : ClosedSpan.ofSpans? outer.paragraphs frame.closing.paragraph =
    some ⟨shift.places + inner.pieces.size, outer.pieces.size - 1, true⟩
  apart : frame.opening.paragraph ≠ frame.closing.paragraph
  rows : ¬ (frame.opening.row.isSome ∧ frame.opening.row = frame.closing.row)
  nested : Piece.Paired (fun _ _ => True) inner.pieces.toList

namespace Framed

variable {shift : Shift} {frame : TagFrame} {outer inner : Layout} {options : RenderOptions}

theorem size_eq (framed : Framed shift frame outer inner) :
    outer.pieces.size = shift.places + inner.pieces.size + frame.back.length := by
  have lengths := congrArg List.length framed.pieces
  have inside : inner.pieces.toList.length = inner.pieces.size := Array.length_toList
  rw [Array.length_toList, List.length_append, List.length_append, List.length_map,
    inside] at lengths
  rw [lengths, framed.places, Nat.add_assoc]

theorem lt_places (framed : Framed shift frame outer inner) :
    (frame.own inner.pieces.size).1 < shift.places := by
  rw [framed.places, TagFrame.own, TagFrame.front, List.length_append, List.length_map]
  simp

/-- The sections of a framed part are the section around it and its own. -/
theorem sections_eq (framed : Framed shift frame outer inner) :
    outer.sections = frame.own inner.pieces.size :: inner.sections.map shift.pair := by
  have places : shift.places = frame.opened.1.length + (frame.opened.2.length + 1) := by
    rw [framed.places, TagFrame.front, List.length_append, List.length_cons, List.length_map,
      List.length_map]
  have opens : frame.opening.kind.opens = true := by
    rw [framed.opens]
    rfl
  have found := @SectionPairs.ofPieces_framed shift _ _ _ frame.closed.1 frame.closed.2 _ _ opens
    framed.closes framed.name framed.nested places
  rw [sections, framed.pieces, TagFrame.own, ← framed.places, ← Array.length_toList]
  exact found

/-- The tags of the section around it stand in the frame. -/
theorem getElem?_own (framed : Framed shift frame outer inner) :
    outer.pieces[(frame.own inner.pieces.size).1]? = some (.tag frame.opening) ∧
      outer.pieces[(frame.own inner.pieces.size).2]? = some (.tag frame.closing) := by
  rw [← Array.getElem?_toList, ← Array.getElem?_toList, framed.pieces, TagFrame.own]
  constructor
  · rw [TagFrame.front, List.append_assoc, List.getElem?_append_right (by simp)]
    simp
  · rw [← List.append_assoc, List.getElem?_append_right (by simp)]
    simp [TagFrame.back]

/-- The section around it takes the two paragraphs of the frame away. -/
theorem widening_own (framed : Framed shift frame outer inner)
    (loops : options.paragraphLoop = true) :
    outer.widening options (frame.own inner.pieces.size) =
      .paragraphs ⟨0, shift.places - 1, true⟩
        ⟨shift.places + inner.pieces.size, outer.pieces.size - 1, true⟩ := by
  obtain ⟨begins, ends⟩ := framed.getElem?_own
  have row : Widening.row? outer frame.opening frame.closing = none :=
    if_neg fun both => framed.rows ⟨both.1, both.2.1⟩
  have filled := framed.lt_places
  have paragraphs : Widening.paragraphs? outer frame.opening frame.closing =
      some (⟨0, shift.places - 1, true⟩,
        ⟨shift.places + inner.pieces.size, outer.pieces.size - 1, true⟩) := by
    rw [Widening.paragraphs?, if_neg framed.apart, framed.first, framed.last]
    exact if_pos ⟨rfl, rfl, by dsimp only; omega⟩
  simp only [widening, tagAt?, begins, ends, Option.bind_some, Piece.tag?, Widening.ofTags, row,
    paragraphs, loops, if_true]

/-- What comes out at a place, with what the frame and what the inner sections have to do with it.
-/
theorem arrivals_eq (framed : Framed shift frame outer inner) (loops : options.paragraphLoop = true)
    (place : Nat) : outer.arrivals options place =
      ((if place = 0 then [(frame.own inner.pieces.size).1] else []) ++
        (if place = shift.places + inner.pieces.size then [(frame.own inner.pieces.size).2]
          else []) ++
        inner.sections.flatMap fun pair => Plan.inFront (shift.pair pair) place
          (shift.widening (inner.widening options pair))) ++
      (if outer.Leaves options place then [] else [place]) ++
      inner.sections.reverse.flatMap fun pair => Plan.behind (shift.pair pair) place
        (shift.widening (inner.widening options pair)) := by
  have front : (inner.sections.map shift.pair).flatMap (fun pair =>
      Plan.inFront pair place (outer.widening options pair)) = inner.sections.flatMap fun pair =>
        Plan.inFront (shift.pair pair) place (shift.widening (inner.widening options pair)) := by
    rw [List.flatMap_map]
    exact List.flatMap_congr fun pair member => by rw [framed.holds.widening_pair member]
  have back : (inner.sections.map shift.pair).reverse.flatMap (fun pair =>
      Plan.behind pair place (outer.widening options pair)) =
      inner.sections.reverse.flatMap fun pair =>
        Plan.behind (shift.pair pair) place (shift.widening (inner.widening options pair)) := by
    rw [← List.map_reverse, List.flatMap_map]
    exact List.flatMap_congr fun pair member => by
      rw [framed.holds.widening_pair (List.mem_reverse.mp member)]
  have none : Plan.behind (frame.own inner.pieces.size) place
      (outer.widening options (frame.own inner.pieces.size)) = [] := by
    rw [framed.widening_own loops]
    rfl
  rw [arrivals, framed.sections_eq, List.flatMap_cons, front, List.reverse_cons,
    List.flatMap_append, back, List.flatMap_singleton, none, List.append_nil,
    framed.widening_own loops, Plan.inFront]

/-- The two paragraphs disappear. -/
theorem leaves_frame (framed : Framed shift frame outer inner)
    (loops : options.paragraphLoop = true) {place : Nat} (below : place < outer.pieces.size)
    (off : place < shift.places ∨ shift.places + inner.pieces.size ≤ place) :
    outer.Leaves options place := by
  refine ⟨frame.own inner.pieces.size, ?_, .inr ?_⟩
  · rw [framed.sections_eq]
    exact List.mem_cons_self
  · rw [framed.widening_own loops]
    show 0 ≤ place ∧ place ≤ shift.places - 1 ∨
      shift.places + inner.pieces.size ≤ place ∧ place ≤ outer.pieces.size - 1
    omega

/-- What leaves its place inside does so in the frame as well. -/
theorem leaves_inner (framed : Framed shift frame outer inner)
    (loops : options.paragraphLoop = true) {place : Nat} (inside : place < inner.pieces.size) :
    outer.Leaves options (shift.places + place) ↔ inner.Leaves options place := by
  have stays : ¬ (shift.places + place ∈ Plan.moversOf (frame.own inner.pieces.size)
        (outer.widening options (frame.own inner.pieces.size)) ∨
      Plan.DroppedBy (shift.places + place)
        (outer.widening options (frame.own inner.pieces.size))) := by
    have before := framed.lt_places
    have after : shift.places + inner.pieces.size ≤ (frame.own inner.pieces.size).2 := by
      rw [TagFrame.own, ← framed.places]
      exact Nat.le_add_right _ _
    rw [framed.widening_own loops]
    show ¬ (shift.places + place ∈
        [(frame.own inner.pieces.size).2, (frame.own inner.pieces.size).1] ∨
      0 ≤ shift.places + place ∧ shift.places + place ≤ shift.places - 1 ∨
        shift.places + inner.pieces.size ≤ shift.places + place ∧ _)
    rw [List.mem_pair]
    omega
  constructor
  · rintro ⟨pair, member, moves⟩
    rw [framed.sections_eq, List.mem_cons] at member
    rcases member with rfl | member
    · exact absurd moves stays
    · obtain ⟨pair, known, rfl⟩ := List.mem_map.mp member
      rw [framed.holds.widening_pair known, Shift.mem_moversOf_pair,
        Shift.droppedBy_widening] at moves
      exact ⟨pair, known, moves⟩
  · rintro ⟨pair, known, moves⟩
    refine ⟨shift.pair pair, ?_, ?_⟩
    · rw [framed.sections_eq]
      exact List.mem_cons_of_mem _ (List.mem_map_of_mem known)
    · rwa [framed.holds.widening_pair known, Shift.mem_moversOf_pair, Shift.droppedBy_widening]

/-- Where the two paragraphs stand, nothing comes out but their tags at their first places. -/
theorem arrivals_frame (framed : Framed shift frame outer inner) (noted : inner.Noted)
    (loops : options.paragraphLoop = true) {place : Nat} (below : place < outer.pieces.size)
    (off : place < shift.places ∨ shift.places + inner.pieces.size ≤ place) :
    outer.arrivals options place =
      (if place = 0 then [(frame.own inner.pieces.size).1] else []) ++
        if place = shift.places + inner.pieces.size then [(frame.own inner.pieces.size).2]
          else [] := by
  have front : (inner.sections.flatMap fun pair => Plan.inFront (shift.pair pair) place
      (shift.widening (inner.widening options pair))) = [] := by
    refine List.flatMap_eq_nil_iff.mpr fun pair member => ?_
    rw [← framed.holds.widening_pair member]
    exact Plan.inFront_eq_nil (framed.holds.not_mem_anchorsOf noted member off)
  have back : (inner.sections.reverse.flatMap fun pair => Plan.behind (shift.pair pair) place
      (shift.widening (inner.widening options pair))) = [] := by
    refine List.flatMap_eq_nil_iff.mpr fun pair member => ?_
    rw [← framed.holds.widening_pair (List.mem_reverse.mp member)]
    exact Plan.behind_eq_nil (framed.holds.not_mem_anchorsOf noted (List.mem_reverse.mp member) off)
  rw [framed.arrivals_eq loops, front, back, if_pos (framed.leaves_frame loops below off),
    List.append_nil, List.append_nil, List.append_nil]

/-- Where the inner layout stands, what comes out is what comes out of it by itself. -/
theorem arrivals_inner (framed : Framed shift frame outer inner)
    (loops : options.paragraphLoop = true) {place : Nat} (inside : place < inner.pieces.size) :
    outer.arrivals options (shift.places + place) =
      (inner.arrivals options place).map (shift.places + ·) := by
  have before := framed.lt_places
  have leaves := framed.leaves_inner loops inside
  rw [framed.arrivals_eq loops, if_neg (by omega), if_neg (by omega), arrivals, List.map_append,
    List.map_append, List.map_flatMap, List.map_flatMap, List.nil_append, List.nil_append]
  simp only [Shift.inFront_pair, Shift.behind_pair, leaves]
  congr 2
  split <;> rfl

/-- The inner layout comes out as by itself between the two tags, and nothing else is left. -/
theorem widened_eq (framed : Framed shift frame outer inner) (noted : outer.Noted)
    (noted' : inner.Noted) (loops : options.paragraphLoop = true) :
    outer.widened options =
      .tag frame.opening :: ((inner.widened options).map shift.piece ++ [.tag frame.closing]) := by
  obtain ⟨begins, ends⟩ := framed.getElem?_own
  have before := framed.lt_places
  have size := framed.size_eq
  -- In front arrives the opening tag alone, behind the closing one, and between them what arrives
  -- there by itself.
  have front : (frame.front.zipIdx.flatMap fun entry =>
      (outer.arrivals options entry.2).filterMap (outer.pieces[·]?)) = [.tag frame.opening] := by
    refine (List.flatMap_congr fun entry member => ?_).trans
      (flatMap_zipIdx_first frame.front_ne_nil 0 [Piece.tag frame.opening])
    have below := List.snd_lt_of_mem_zipIdx member
    rw [← framed.places] at below
    have apart : entry.2 ≠ shift.places + inner.pieces.size := by omega
    rw [framed.arrivals_frame noted' loops (by omega) (.inl below), if_neg apart, List.append_nil]
    split
    · simp [begins]
    · rfl
  have back : ((frame.back.zipIdx (shift.places + inner.pieces.size)).flatMap fun entry =>
      (outer.arrivals options entry.2).filterMap (outer.pieces[·]?)) = [.tag frame.closing] := by
    refine (List.flatMap_congr fun entry member => ?_).trans
      (flatMap_zipIdx_first frame.back_ne_nil (shift.places + inner.pieces.size)
        [Piece.tag frame.closing])
    have above := List.le_snd_of_mem_zipIdx member
    have below := List.snd_lt_add_of_mem_zipIdx member
    have apart : entry.2 ≠ 0 := by omega
    rw [framed.arrivals_frame noted' loops (by omega) (.inr above), if_neg apart, List.nil_append]
    split
    · simp [ends]
    · rfl
  have middle : (((inner.pieces.toList.map shift.piece).zipIdx shift.places).flatMap fun entry =>
      (outer.arrivals options entry.2).filterMap (outer.pieces[·]?)) =
        (inner.widened options).map shift.piece := by
    rw [noted'.widened_eq_flatMap, List.zipIdx_eq_map_add, List.flatMap_map, List.map_flatMap,
      List.zipIdx_map, List.flatMap_map]
    refine List.flatMap_congr fun ⟨piece, place⟩ member => ?_
    have below : place < inner.pieces.size := by simpa using List.snd_lt_of_mem_zipIdx member
    dsimp only [Prod.map, id]
    rw [framed.arrivals_inner loops below, List.filterMap_map, List.map_filterMap]
    refine List.filterMap_congr fun place arrives => ?_
    exact framed.holds.pieces place (lt_size_of_mem_arrivals below arrives)
  have inside : inner.pieces.toList.length = inner.pieces.size := Array.length_toList
  rw [noted.widened_eq_flatMap, framed.pieces, List.zipIdx_append, List.flatMap_append, front,
    List.zipIdx_append, List.flatMap_append, List.length_map, inside, Nat.zero_add, ← framed.places,
    middle, back, List.singleton_append]

end Framed

end Layout

end WordMerge
