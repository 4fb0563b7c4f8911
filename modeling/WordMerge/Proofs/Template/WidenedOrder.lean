import WordMerge.Proofs.Template.Placement
import WordMerge.Proofs.Template.Tree
import WordMerge.Template.Widening

namespace WordMerge

namespace Piece

/-- The open elements behind a piece. A value tag has to stand in a text element. -/
def pass (opened : List Text) : Piece → Option (List Text)
  | .verbatim xml => Edge.walk opened (Edge.scan xml)
  | .tag placed =>
    if placed.kind = .value ∧ opened.head? ≠ some textName then none else some opened

/-- The open elements behind some pieces. -/
def passAll (opened : List Text) (pieces : List Piece) : Option (List Text) :=
  pieces.foldlM pass opened

theorem passAll_append (opened : List Text) (a b : List Piece) :
    passAll opened (a ++ b) = (passAll opened a).bind (passAll · b) :=
  List.foldlM_append

@[simp] theorem passAll_nil (opened : List Text) : passAll opened [] = some opened := rfl

theorem passAll_cons (opened : List Text) (piece : Piece) (rest : List Piece) :
    passAll opened (piece :: rest) = (pass opened piece).bind (passAll · rest) :=
  rfl

/-- Whether the XML of some pieces has a property with the elements that are open in front of it. -/
def Meets (P : List Text → Text → Prop) : List Text → List Piece → Prop
  | _, [] => True
  | opened, piece :: rest =>
    (∀ xml, piece = .verbatim xml → P opened xml) ∧
      ∀ after, pass opened piece = some after → Meets P after rest

theorem meets_append {P : List Text → Text → Prop} {opened : List Text} {a b : List Piece} :
    Meets P opened (a ++ b) ↔
      Meets P opened a ∧ ∀ between, passAll opened a = some between → Meets P between b := by
  induction a generalizing opened with
  | nil => simp [Meets]
  | cons piece rest ih =>
    simp only [List.cons_append, Meets, ih, passAll_cons, Option.bind_eq_some_iff]
    constructor
    · rintro ⟨here, later⟩
      exact ⟨⟨here, fun after passed => (later after passed).1⟩,
        fun between ⟨after, passed, rest⟩ => (later after passed).2 between rest⟩
    · rintro ⟨⟨here, later⟩, behind⟩
      exact ⟨here, fun after passed =>
        ⟨later after passed, fun between rest => behind between ⟨after, passed, rest⟩⟩⟩

/-- Whether some XML stands at a place with the given elements open in front of it. -/
def Stands (pieces : Array Piece) (opened : List Text) (xml : Text) : Prop :=
  ∃ place : Nat, pieces[place]? = some (.verbatim xml) ∧
    Edge.openedAt (edgeRows pieces) place = opened

/-- Whether a section tag stands at a place. -/
def SectionAt (pieces : Array Piece) (place : Nat) : Prop :=
  ∃ tag, pieces[place]? = some (.tag tag) ∧ tag.kind ≠ .value

theorem pass_section {tag : PlacedTag} (other : tag.kind ≠ .value) (opened : List Text) :
    pass opened (.tag tag) = some opened := by
  rw [pass, if_neg fun both => other both.1]

theorem pass_opening {tag : PlacedTag} (opens : tag.kind.opens = true) (opened : List Text) :
    pass opened (.tag tag) = some opened := by
  refine pass_section (fun value => ?_) opened
  rw [value] at opens
  cases opens

theorem pass_ending (tag : PlacedTag) (opened : List Text) :
    pass opened (.tag tag.ending) = some opened :=
  pass_section (by simp [PlacedTag.ending]) opened

theorem passAll_sections {pieces : Array Piece} {places : List Nat} (opened : List Text)
    (sections : ∀ place ∈ places, SectionAt pieces place) :
    passAll opened (places.filterMap fun place => pieces[place]?) = some opened := by
  induction places with
  | nil => rfl
  | cons place rest ih =>
    rw [List.forall_mem_cons] at sections
    obtain ⟨⟨tag, found, kind⟩, later⟩ := sections
    rw [List.filterMap_cons, found, passAll_cons, pass_section kind, Option.bind_some, ih later]

theorem meets_sections {pieces : Array Piece} {places : List Nat} (P : List Text → Text → Prop)
    (opened : List Text) (sections : ∀ place ∈ places, SectionAt pieces place) :
    Meets P opened (places.filterMap fun place => pieces[place]?) := by
  induction places generalizing opened with
  | nil => trivial
  | cons place rest ih =>
    rw [List.forall_mem_cons] at sections
    obtain ⟨⟨tag, found, _⟩, later⟩ := sections
    rw [List.filterMap_cons, found]
    exact ⟨nofun, fun after _ => ih after later⟩

/-- Every piece that is laid passes from the elements in front of it to those behind it. -/
theorem Laid.pass {Q : Text → Prop} {pieces : Array Piece} {opened : List Text}
    (laid : Laid Q pieces opened) {place : Nat} {piece : Piece}
    (found : pieces[place]? = some piece) :
    piece.pass (Edge.openedAt (edgeRows pieces) place) =
      some (Edge.openedAt (edgeRows pieces) (place + 1)) := by
  have row : (edgeRows pieces)[place]? = some piece.edges := by
    simp [edgeRows, found]
  have walked := Edge.walk_openedAt laid.walked row
  cases piece with
  | verbatim xml => exact walked
  | tag tag =>
    rw [Piece.pass, if_neg fun both => both.2 (laid.tags place tag found)]
    exact walked

end Piece

namespace SectionPairs

open Piece

/-- What passing a piece does to the sections found so far. -/
inductive Passing (found : SectionPairs) (place : Nat) : Piece → SectionPairs → Prop
  | xml {xml : Text} : Passing found place (.verbatim xml) found
  | value {tag : PlacedTag} : tag.kind = .value → Passing found place (.tag tag) found
  | opened {tag : PlacedTag} : tag.kind.opens = true →
      Passing found place (.tag tag) { found with stack := (place, tag.name) :: found.stack }
  | closed {tag : PlacedTag} {start : Nat} {outer : List (Nat × Text)} :
      tag.kind = .closing → found.stack = (start, tag.name) :: outer →
      Passing found place (.tag tag) ⟨outer, (start, place) :: found.pairs⟩
  | unmatched {tag : PlacedTag} : tag.kind = .closing →
      (∀ start outer, found.stack ≠ (start, tag.name) :: outer) →
      Passing found place (.tag tag) found

theorem passing_step (found : SectionPairs) (place : Nat) (piece : Piece) :
    Passing found place piece (found.step place piece) := by
  cases piece with
  | verbatim xml => exact .xml
  | tag tag =>
    cases kind : tag.kind with
    | value => simpa only [step, kind] using Passing.value kind
    | opening | inverted => simpa only [step, kind] using Passing.opened (by rw [kind]; rfl)
    | closing =>
      simp only [step, kind]
      split
      · next none => exact .unmatched kind fun start outer => by rw [none]; nofun
      · next start name outer stack =>
        split
        · next same => exact .closed kind (same ▸ stack)
        · next other =>
          refine .unmatched kind fun start outer same => other ?_
          rw [stack] at same
          cases same
          rfl

/-- What holds at the start and is kept by passing each piece holds behind all pieces. -/
theorem scan_induction (P : Nat → SectionPairs → Prop) {pieces : List Piece} (start : P 0 {})
    (next : ∀ place piece found, pieces[place]? = some piece → P place found →
      P (place + 1) (found.step place piece)) : P pieces.length (scan {} 0 pieces) := by
  have run (rest : List Piece) (place : Nat) (found : SectionPairs)
      (left : pieces.drop place = rest) (holds : P place found) :
      P (place + rest.length) (found.scan place rest) := by
    induction rest generalizing place found with
    | nil => exact holds
    | cons piece rest ih =>
      have here : pieces[place]? = some piece := by
        have first := congrArg List.head? left
        simpa using first
      have later := ih (place + 1) _
        (by rw [← List.drop_drop, left, List.drop_one, List.tail_cons])
        (next place piece found here holds)
      rwa [Nat.add_assoc, Nat.add_comm 1] at later
  have all := run pieces 0 {} List.drop_zero start
  rwa [Nat.zero_add] at all

/-- The sections found so far are section tags of the pieces. -/
structure Among (pieces : Array Piece) (found : SectionPairs) : Prop where
  stack : ∀ entry ∈ found.stack, SectionAt pieces entry.1
  pairs : ∀ pair ∈ found.pairs, SectionAt pieces pair.1 ∧ SectionAt pieces pair.2

theorem Among.step {pieces : Array Piece} {found : SectionPairs} (among : Among pieces found)
    {place : Nat} {piece : Piece} (here : pieces[place]? = some piece) :
    Among pieces (found.step place piece) := by
  have passing := passing_step found place piece
  generalize found.step place piece = next at passing ⊢
  cases passing with
  | xml | value | unmatched => exact among
  | @opened tag opens =>
    have section_ : tag.kind ≠ .value := fun kind => by simp [kind, TagKind.opens] at opens
    exact ⟨List.forall_mem_cons.mpr ⟨⟨tag, here, section_⟩, among.stack⟩, among.pairs⟩
  | @closed tag start outer closes stack =>
    have entries := among.stack
    rw [stack, List.forall_mem_cons] at entries
    exact ⟨entries.2, List.forall_mem_cons.mpr
      ⟨⟨entries.1, tag, here, by simp [closes]⟩, among.pairs⟩⟩

/-- XML holds no sections. -/
theorem scan_verbatim (found : SectionPairs) (place : Nat) (row : List Text) :
    found.scan place (row.map .verbatim) = found := by
  induction row generalizing place with
  | nil => rfl
  | cons xml row ih => exact ih (place + 1)

theorem ofPieces_sections {pieces : Array Piece} {pair : Nat × Nat}
    (member : pair ∈ ofPieces pieces.toList) :
    SectionAt pieces pair.1 ∧ SectionAt pieces pair.2 := by
  have all : Among pieces (scan {} 0 pieces.toList) :=
    scan_induction (fun _ => Among pieces) ⟨by simp, by simp⟩
      fun _ _ _ here among => among.step (by simpa using here)
  rw [ofPieces, List.mem_mergeSort] at member
  exact all.pairs pair member

end SectionPairs

namespace Plan

open Piece

/-- Whether the piece at a place disappears. -/
def Drops (plan : Plan) (place : Nat) : Prop :=
  ∃ slot, plan[place]? = some slot ∧ slot.dropped = true

/-- A stretch of places that holds whole elements and disappears. -/
structure Removes (plan : Plan) (pieces : Array Piece) (first last : Nat) : Prop where
  encloses : Edge.Encloses (edgeRows pieces) first last
  drops : ∀ place, first ≤ place → place ≤ last → plan.Drops place

/-- A plan that moves section tags only and lets whole elements disappear. -/
structure Fair (plan : Plan) (pieces : Array Piece) : Prop where
  size : plan.size = pieces.size
  guests : ∀ (place : Nat) slot, plan[place]? = some slot →
    ∀ other ∈ slot.before ++ slot.after, SectionAt pieces other
  moved : ∀ (place : Nat) slot, plan[place]? = some slot → slot.moved = true →
    SectionAt pieces place
  dropped : ∀ place, plan.Drops place →
    ∃ first last, first ≤ place ∧ place ≤ last ∧ plan.Removes pieces first last

theorem fair_unchanged (pieces : Array Piece) : Fair (unchanged pieces.size) pieces := by
  have empty {place : Nat} {slot : Slot} (found : (unchanged pieces.size)[place]? = some slot) :
      slot = {} := by
    simp only [unchanged, Array.getElem?_replicate] at found
    split at found
    · exact (Option.some.inj found).symm
    · cases found
  refine ⟨by simp [unchanged], fun place slot found => ?_, fun place slot found => ?_, ?_⟩
  · simp [empty found]
  · simp [empty found]
  · rintro place ⟨slot, found, drops⟩
    rw [empty found] at drops
    cases drops

theorem drops_modify {plan : Plan} {anchor : Nat} {change : Slot → Slot}
    (same : ∀ slot, (change slot).dropped = slot.dropped) (place : Nat) :
    Drops (plan.modify anchor change) place ↔ plan.Drops place := by
  unfold Drops
  rw [Array.getElem?_modify]
  split
  · cases found : plan[place]? <;> simp [same]
  · exact Iff.rfl

/-- A slot may get section tags around it, and its own piece may be moved if it is one. -/
theorem Fair.modify {plan : Plan} {pieces : Array Piece} (fair : plan.Fair pieces) {anchor : Nat}
    {change : Slot → Slot} (same : ∀ slot, (change slot).dropped = slot.dropped)
    (guests : ∀ slot, ∀ other ∈ (change slot).before ++ (change slot).after,
      other ∈ slot.before ++ slot.after ∨ SectionAt pieces other)
    (moved : ∀ slot, (change slot).moved = true → slot.moved = true ∨ SectionAt pieces anchor) :
    Fair (plan.modify anchor change) pieces := by
  refine ⟨by rw [Array.size_modify, fair.size], fun place slot found other member => ?_,
    fun place slot found moves => ?_, fun place drops => ?_⟩
  · rw [Array.getElem?_modify] at found
    split at found
    · obtain ⟨old, there, rfl⟩ := Option.map_eq_some_iff.mp found
      rcases guests old other member with before | new
      · exact fair.guests place old there other before
      · exact new
    · exact fair.guests place slot found other member
  · rw [Array.getElem?_modify] at found
    split at found
    · next here =>
      obtain ⟨old, there, rfl⟩ := Option.map_eq_some_iff.mp found
      rcases moved old moves with before | new
      · exact fair.moved place old there before
      · exact here ▸ new
    · exact fair.moved place slot found moves
  · rw [drops_modify same] at drops
    obtain ⟨first, last, after, upTo, encloses, all⟩ := fair.dropped place drops
    exact ⟨first, last, after, upTo, encloses, fun other above below =>
      (drops_modify same other).mpr (all other above below)⟩

theorem Fair.moveBefore {plan : Plan} {pieces : Array Piece} (fair : plan.Fair pieces)
    {place : Nat} (marker : SectionAt pieces place) (anchor : Nat) :
    Fair (plan.moveBefore anchor place) pieces := by
  have left : Fair (plan.modify place fun slot => { slot with moved := true }) pieces :=
    fair.modify (fun _ => rfl) (fun _ _ => .inl) fun _ _ => .inr marker
  refine left.modify (fun _ => rfl) (fun slot other member => ?_) fun _ => .inl
  simp only [List.mem_append, List.mem_singleton] at member ⊢
  rcases member with (before | rfl) | after
  · exact .inl (.inl before)
  · exact .inr marker
  · exact .inl (.inr after)

theorem Fair.moveAfter {plan : Plan} {pieces : Array Piece} (fair : plan.Fair pieces)
    {place : Nat} (marker : SectionAt pieces place) (anchor : Nat) :
    Fair (plan.moveAfter anchor place) pieces := by
  have left : Fair (plan.modify place fun slot => { slot with moved := true }) pieces :=
    fair.modify (fun _ => rfl) (fun _ _ => .inl) fun _ _ => .inr marker
  refine left.modify (fun _ => rfl) (fun slot other member => ?_) fun _ => .inl
  simp only [List.mem_append, List.mem_cons] at member ⊢
  rcases member with before | rfl | after
  · exact .inl (.inl before)
  · exact .inr marker
  · exact .inl (.inr after)

theorem getElem?_foldl_drop (places : List Nat) (plan : Plan) (place : Nat) :
    (places.foldl (fun plan place => plan.modify place fun slot => { slot with dropped := true })
      plan)[place]? =
      plan[place]?.map fun slot =>
        { slot with dropped := slot.dropped || decide (place ∈ places) } := by
  induction places generalizing plan with
  | nil => simp
  | cons first rest ih =>
    rw [List.foldl_cons, ih, Array.getElem?_modify]
    split
    · next here =>
      subst here
      cases plan[first]? <;> simp
    · next other =>
      have fresh : place ≠ first := fun same => other same.symm
      simp [fresh]

theorem size_foldl_drop (places : List Nat) (plan : Plan) : (places.foldl (fun plan place =>
    plan.modify place fun slot => { slot with dropped := true }) plan).size = plan.size := by
  induction places generalizing plan with
  | nil => rfl
  | cons place rest ih => rw [List.foldl_cons, ih, Array.size_modify]

theorem size_drop (plan : Plan) (span : ClosedSpan) : (plan.drop span).size = plan.size :=
  size_foldl_drop _ plan

theorem size_widen (plan : Plan) (pair : Nat × Nat) (widening : Widening) :
    (plan.widen pair widening).size = plan.size := by
  cases widening <;> simp [widen, Plan.moveBefore, Plan.moveAfter, size_drop]

theorem getElem?_drop (plan : Plan) (span : ClosedSpan) (place : Nat) :
    (plan.drop span)[place]? = plan[place]?.map fun slot =>
      { slot with
        dropped := slot.dropped || decide (span.first ≤ place ∧ place ≤ span.last) } := by
  rw [drop, getElem?_foldl_drop]
  congr 2
  funext slot
  have same : place ∈ List.range' span.first (span.last + 1 - span.first) ↔
      span.first ≤ place ∧ place ≤ span.last := by
    rw [List.mem_range'_1]
    omega
  simp only [same]

theorem drops_drop {plan : Plan} {span : ClosedSpan} {place : Nat} :
    Drops (plan.drop span) place ↔
      plan.Drops place ∨ place < plan.size ∧ span.first ≤ place ∧ place ≤ span.last := by
  unfold Drops
  rw [getElem?_drop]
  cases found : plan[place]? with
  | none =>
    have outside := Array.getElem?_eq_none_iff.mp found
    simp
    omega
  | some slot =>
    obtain ⟨inside, _⟩ := Array.getElem?_eq_some_iff.mp found
    simp [inside]

theorem Fair.drop {plan : Plan} {pieces : Array Piece} (fair : plan.Fair pieces)
    {span : ClosedSpan} (encloses : Edge.Encloses (edgeRows pieces) span.first span.last) :
    Fair (plan.drop span) pieces := by
  have inside := encloses.inside
  rw [length_edgeRows, ← fair.size] at inside
  refine ⟨(size_drop plan span).trans fair.size, fun place slot found => ?_,
    fun place slot found => ?_, ?_⟩
  · rw [getElem?_drop] at found
    obtain ⟨old, there, rfl⟩ := Option.map_eq_some_iff.mp found
    exact fair.guests place old there
  · rw [getElem?_drop] at found
    obtain ⟨old, there, rfl⟩ := Option.map_eq_some_iff.mp found
    exact fair.moved place old there
  · intro place drops
    rcases drops_drop.mp drops with before | ⟨_, after, upTo⟩
    · obtain ⟨first, last, after, upTo, whole, all⟩ := fair.dropped place before
      exact ⟨first, last, after, upTo, whole, fun other above below =>
        drops_drop.mpr (.inl (all other above below))⟩
    · exact ⟨span.first, span.last, after, upTo, encloses, fun other above below =>
        drops_drop.mpr (.inr ⟨by omega, above, below⟩)⟩

theorem Fair.widen {plan : Plan} {pieces : Array Piece} (fair : plan.Fair pieces)
    {pair : Nat × Nat} (opening : SectionAt pieces pair.1) (closing : SectionAt pieces pair.2)
    {widening : Widening}
    (whole : ∀ first last, widening = .paragraphs first last →
      Edge.Encloses (edgeRows pieces) first.first first.last ∧
        Edge.Encloses (edgeRows pieces) last.first last.last) :
    Fair (plan.widen pair widening) pieces := by
  cases widening with
  | inline => exact fair
  | row span => exact (fair.moveBefore opening span.first).moveAfter closing span.last
  | paragraphs first last =>
    obtain ⟨front, back⟩ := whole first last rfl
    exact (((fair.drop front).moveBefore opening first.first).drop back).moveBefore closing last.first

/-- The places that come out where the piece at a place stands. -/
def placesAt (slot : Slot) (place : Nat) : List Nat :=
  slot.before ++ (if slot.dropped || slot.moved then [] else [place]) ++ slot.after

/-- The places in their new order as far as the slots in front of a place say. -/
def orderTo (plan : Plan) (place : Nat) : List Nat :=
  (plan.toList.zipIdx.take place).flatMap fun entry => placesAt entry.1 entry.2

/-- The pieces in their new order as far as the slots in front of a place say. -/
def piecesTo (plan : Plan) (pieces : Array Piece) (place : Nat) : List Piece :=
  (plan.orderTo place).filterMap fun place => pieces[place]?

theorem orderTo_size (plan : Plan) : plan.orderTo plan.size = plan.order := by
  have all : plan.toList.zipIdx.take plan.size = plan.toList.zipIdx :=
    List.take_of_length_le (by simp)
  rw [orderTo, all]
  rfl

theorem piecesTo_succ {plan : Plan} {place : Nat} {slot : Slot} (found : plan[place]? = some slot)
    (pieces : Array Piece) : plan.piecesTo pieces (place + 1) =
      plan.piecesTo pieces place ++ (placesAt slot place).filterMap fun place => pieces[place]? := by
  have entry : plan.toList.zipIdx[place]? = some (slot, place) := by
    simp [List.getElem?_zipIdx, found]
  rw [piecesTo, orderTo, List.take_add_one, entry, List.flatMap_append, List.filterMap_append]
  simp [piecesTo, orderTo]

/-- What comes out at a place passes like the piece that stood there, or like nothing where it
disappears. -/
theorem Fair.passAll_placesAt {plan : Plan} {pieces : Array Piece} (fair : plan.Fair pieces)
    {place : Nat} {slot : Slot} {piece : Piece} (found : plan[place]? = some slot)
    (there : pieces[place]? = some piece) (opened : List Text) :
    passAll opened ((placesAt slot place).filterMap fun place => pieces[place]?) =
      if slot.dropped then some opened else piece.pass opened := by
  have guests := fair.guests place slot found
  rw [List.forall_mem_append] at guests
  have own : passAll opened ((if slot.dropped || slot.moved then [] else [place]).filterMap
      fun place => pieces[place]?) = if slot.dropped then some opened else piece.pass opened := by
    cases drops : slot.dropped with
    | true => rfl
    | false =>
      cases moves : slot.moved with
      | true =>
        obtain ⟨tag, here, kind⟩ := fair.moved place slot found moves
        rw [there] at here
        cases here
        exact (pass_section kind opened).symm
      | false =>
        have single : passAll opened [piece] = piece.pass opened := by
          rw [passAll_cons]
          cases piece.pass opened <;> rfl
        simpa [there] using single
  rw [placesAt, List.filterMap_append, List.filterMap_append, passAll_append, passAll_append,
    passAll_sections opened guests.1, Option.bind_some, own]
  split
  · exact passAll_sections opened guests.2
  · cases passed : piece.pass opened with
    | none => rfl
    | some after => exact passAll_sections after guests.2

theorem Fair.passAll_dropped {plan : Plan} {pieces : Array Piece} (fair : plan.Fair pieces)
    {first stop : Nat} (ordered : first ≤ stop)
    (drops : ∀ place, first ≤ place → place < stop → plan.Drops place) (opened : List Text) :
    passAll opened (plan.piecesTo pieces stop) = passAll opened (plan.piecesTo pieces first) := by
  induction ordered with
  | refl => rfl
  | @step stop ordered ih =>
    obtain ⟨slot, found, dropped⟩ := drops stop ordered (Nat.lt_succ_self stop)
    obtain ⟨inside, _⟩ := Array.getElem?_eq_some_iff.mp found
    rw [fair.size] at inside
    rw [Nat.succ_eq_add_one, piecesTo_succ found, passAll_append,
      ih fun place after before => drops place after (Nat.lt_succ_of_lt before)]
    cases passAll opened (plan.piecesTo pieces first) with
    | none => rfl
    | some between =>
      rw [Option.bind_some,
        fair.passAll_placesAt found (Array.getElem?_eq_getElem inside) between, if_pos dropped]

/-- Of two stretches the one that starts earlier ends before the other one, or behind it. -/
theorem Removes.lt_of_earlier {plan : Plan} {pieces : Array Piece} {start stop first last : Nat}
    (removes : plan.Removes pieces first last) (other : plan.Removes pieces start stop)
    (earlier : start < first) (inside : stop ≤ last) : stop < first := by
  -- A stretch that covers `first` would end inside this one or with it, where fewer elements are
  -- open than at `first`.
  by_contra still
  have above := other.encloses.deeper first earlier (by omega)
  have left := congrArg List.length other.encloses.same
  by_cases ending : stop = last
  · subst ending
    have level := congrArg List.length removes.encloses.same
    omega
  · have below := removes.encloses.deeper (stop + 1) (by omega) (by omega)
    omega

/-- A stretch that disappears and starts before a place that stays ends before it. -/
theorem Removes.lt_of_stays {plan : Plan} {pieces : Array Piece} {first last place : Nat}
    (removes : plan.Removes pieces first last) {slot : Slot} (found : plan[place]? = some slot)
    (stays : slot.dropped = false) (starts : first < place) : last < place := by
  by_contra still
  obtain ⟨other, same, dropped⟩ := removes.drops place (by omega) (by omega)
  rw [found] at same
  cases same
  rw [stays] at dropped
  cases dropped

/-- Whether a place is in front of all or behind all of every stretch that disappears. -/
def Outside (plan : Plan) (pieces : Array Piece) (place : Nat) : Prop :=
  ∀ first last, plan.Removes pieces first last → first < place → last < place

theorem outside_of_stays {plan : Plan} {pieces : Array Piece} {place : Nat} {slot : Slot}
    (found : plan[place]? = some slot) (stays : slot.dropped = false) :
    plan.Outside pieces place :=
  fun _ _ removes => removes.lt_of_stays found stays

theorem outside_size (plan : Plan) (pieces : Array Piece) : plan.Outside pieces pieces.size := by
  intro first last removes _
  have inside := removes.encloses.inside
  rwa [length_edgeRows] at inside

/-- Induction over the places that are not inside a stretch that disappears: past a piece that stays,
and past such a stretch as a whole. -/
@[elab_as_elim]
theorem Fair.outside_induction {plan : Plan} {pieces : Array Piece} (fair : plan.Fair pieces)
    {motive : Nat → Prop} (zero : motive 0)
    (stays : ∀ place slot, plan[place]? = some slot → slot.dropped = false → motive place →
      motive (place + 1))
    (removed : ∀ first last, plan.Removes pieces first last → motive first → motive (last + 1))
    {place : Nat} (inside : place ≤ pieces.size) (outside : plan.Outside pieces place) :
    motive place := by
  induction place using Nat.strongRecOn with
  | ind place ih =>
    cases place with
    | zero => exact zero
    | succ place =>
      have slotted : place < plan.size := by
        rw [fair.size]
        exact inside
      have found : plan[place]? = some plan[place] := Array.getElem?_eq_getElem slotted
      cases drops : plan[place].dropped with
      | false =>
        exact stays place _ found drops
          (ih place (Nat.lt_succ_self place) (Nat.le_of_succ_le inside) (outside_of_stays found drops))
      | true =>
        obtain ⟨first, last, starts, ends, removes⟩ := fair.dropped place ⟨_, found, drops⟩
        have same : last = place := by
          have := outside first last removes (by omega)
          omega
        subst same
        exact removed first last removes (ih first (by omega) (by omega)
          fun start stop other earlier => removes.lt_of_earlier other earlier
            (by have := outside start stop other; omega))

/-- In front of a place that is not inside a stretch that disappears, the same elements are open in
both orders. -/
theorem Fair.passAll_piecesTo {Q : Text → Prop} {plan : Plan} {pieces : Array Piece}
    (fair : plan.Fair pieces) (laid : Laid Q pieces []) {place : Nat} (inside : place ≤ pieces.size)
    (outside : plan.Outside pieces place) :
    passAll [] (plan.piecesTo pieces place) = some (Edge.openedAt (edgeRows pieces) place) := by
  refine fair.outside_induction (motive := fun place => passAll [] (plan.piecesTo pieces place) =
    some (Edge.openedAt (edgeRows pieces) place)) rfl ?_ ?_ inside outside
  · intro place slot found stays before
    obtain ⟨bound, _⟩ := Array.getElem?_eq_some_iff.mp found
    rw [fair.size] at bound
    have there : pieces[place]? = some pieces[place] := Array.getElem?_eq_getElem bound
    rw [piecesTo_succ found, passAll_append, before, Option.bind_some,
      fair.passAll_placesAt found there, stays]
    exact laid.pass there
  · rintro first last ⟨encloses, drops⟩ before
    have ordered := encloses.ordered
    rw [fair.passAll_dropped (by omega) (fun place after upTo => drops place after (by omega)),
      before, encloses.same]

/-- In the new order, XML stands among the elements among which it stood before. -/
theorem Fair.meets_piecesTo {Q : Text → Prop} {plan : Plan} {pieces : Array Piece}
    (fair : plan.Fair pieces) (laid : Laid Q pieces []) {place : Nat}
    (inside : place ≤ pieces.size) :
    Meets (Stands pieces) [] (plan.piecesTo pieces place) := by
  induction place with
  | zero => trivial
  | succ place ih =>
    have there : pieces[place]? = some pieces[place] := Array.getElem?_eq_getElem inside
    have slotted : place < plan.size := by
      rw [fair.size]
      exact inside
    have found : plan[place]? = some plan[place] := Array.getElem?_eq_getElem slotted
    have guests := fair.guests place _ found
    rw [List.forall_mem_append] at guests
    rw [piecesTo_succ found, placesAt, List.filterMap_append, List.filterMap_append]
    refine meets_append.mpr ⟨ih (by omega), fun opened passed => ?_⟩
    refine meets_append.mpr ⟨meets_append.mpr ⟨meets_sections _ _ guests.1, fun between same => ?_⟩,
      fun after _ => meets_sections _ _ guests.2⟩
    rw [passAll_sections opened guests.1] at same
    cases same
    split
    · trivial
    · next stays =>
      -- the piece stays in its place, so no stretch around it disappears
      rw [Bool.or_eq_true, not_or, Bool.not_eq_true] at stays
      have before := fair.passAll_piecesTo laid (by omega : place ≤ pieces.size)
        (outside_of_stays found stays.1)
      rw [passed] at before
      cases before
      have single : [place].filterMap (fun place => pieces[place]?) = [pieces[place]] := by
        simp [there]
      rw [single]
      exact ⟨fun xml same => ⟨place, by rw [there, same], rfl⟩, fun _ _ => trivial⟩

end Plan

namespace ClosedSpan

theorem ofSpans?_eq_some {spans : Array Span} {id : Option Nat} {closed : ClosedSpan} :
    ofSpans? spans id = some closed ↔ ∃ number span, id = some number ∧
      spans[number]? = some span ∧ span.stop = some closed.last ∧ span.start = closed.first ∧
      span.holdsSingleTag = closed.single := by
  unfold ofSpans?
  constructor
  · intro found
    obtain ⟨number, same, found⟩ := Option.bind_eq_some_iff.mp found
    obtain ⟨span, there, found⟩ := Option.bind_eq_some_iff.mp found
    obtain ⟨last, stop, found⟩ := Option.bind_eq_some_iff.mp found
    cases found
    exact ⟨number, span, same, there, stop, rfl, rfl⟩
  · rintro ⟨number, span, rfl, there, stop, start, single⟩
    simp only [Option.bind_eq_bind, Option.bind_some, there, stop, Option.pure_def, start, single]

end ClosedSpan

namespace Widening

variable {layout : Layout} {options : RenderOptions} {opening closing : PlacedTag}

theorem paragraphs?_eq_some {first last : ClosedSpan} :
    paragraphs? layout opening closing = some (first, last) ↔
      opening.paragraph ≠ closing.paragraph ∧
        ClosedSpan.ofSpans? layout.paragraphs opening.paragraph = some first ∧
        ClosedSpan.ofSpans? layout.paragraphs closing.paragraph = some last ∧
        first.single = true ∧ last.single = true ∧ first.last < last.first := by
  unfold paragraphs?
  by_cases same : opening.paragraph = closing.paragraph
  · simp [same]
  · rw [if_neg same]
    cases ClosedSpan.ofSpans? layout.paragraphs opening.paragraph with
    | none => simp
    | some front =>
      cases ClosedSpan.ofSpans? layout.paragraphs closing.paragraph with
      | none => simp
      | some back =>
        dsimp only
        rw [Option.ite_none_right_eq_some]
        constructor
        · rintro ⟨each, found⟩
          cases found
          exact ⟨same, rfl, rfl, each⟩
        · rintro ⟨_, ⟨⟩, ⟨⟩, each⟩
          exact ⟨each, rfl⟩

/-- A section takes the places of its paragraphs where it widens to no row. -/
theorem paragraphs_of_ofTags {first last : ClosedSpan}
    (widens : ofTags layout options opening closing = .paragraphs first last) :
    ClosedSpan.ofSpans? layout.paragraphs opening.paragraph = some first ∧
      ClosedSpan.ofSpans? layout.paragraphs closing.paragraph = some last ∧
      first.single = true ∧ last.single = true ∧ first.last < last.first := by
  unfold ofTags at widens
  repeat' split at widens
  all_goals cases widens
  next found => exact (paragraphs?_eq_some.mp found).2

end Widening

namespace Layout

open Piece

theorem InPlace.encloses_of_widening {Q : Text → Prop} {layout : Layout} (placed : InPlace Q layout)
    {options : RenderOptions} {pair : Nat × Nat} {first last : ClosedSpan}
    (widens : layout.widening options pair = .paragraphs first last) :
    Edge.Encloses (edgeRows layout.pieces) first.first first.last ∧
      Edge.Encloses (edgeRows layout.pieces) last.first last.last := by
  have whole {id : Option Nat} {closed : ClosedSpan}
      (found : ClosedSpan.ofSpans? layout.paragraphs id = some closed) :
      Edge.Encloses (edgeRows layout.pieces) closed.first closed.last := by
    obtain ⟨number, span, _, there, stop, start, _⟩ := ClosedSpan.ofSpans?_eq_some.mp found
    rw [← start]
    exact placed.closed number span closed.last there stop
  unfold widening at widens
  split at widens
  · obtain ⟨front, back, -⟩ := Widening.paragraphs_of_ofTags widens
    exact ⟨whole front, whole back⟩
  · cases widens

theorem InPlace.fair_foldl_widen {Q : Text → Prop} {layout : Layout} (placed : InPlace Q layout)
    (options : RenderOptions) {pairs : List (Nat × Nat)} {plan : Plan}
    (fair : plan.Fair layout.pieces)
    (sections : ∀ pair ∈ pairs, SectionAt layout.pieces pair.1 ∧ SectionAt layout.pieces pair.2) :
    Plan.Fair (pairs.foldl (fun plan pair => plan.widen pair (layout.widening options pair)) plan)
      layout.pieces := by
  induction pairs generalizing plan with
  | nil => exact fair
  | cons pair rest ih =>
    rw [List.forall_mem_cons] at sections
    exact ih (fair.widen sections.1.1 sections.1.2 fun _ _ => placed.encloses_of_widening) sections.2

/-- The plan of a part with everything in its place moves section tags only and drops whole
paragraphs. -/
theorem InPlace.fair_plan {Q : Text → Prop} {layout : Layout} (placed : InPlace Q layout)
    (options : RenderOptions) : (layout.plan options).Fair layout.pieces :=
  placed.fair_foldl_widen options (Plan.fair_unchanged _) fun _ => SectionPairs.ofPieces_sections

theorem size_foldl_widen (layout : Layout) (options : RenderOptions) (pairs : List (Nat × Nat))
    (plan : Plan) : (pairs.foldl (fun plan pair => plan.widen pair (layout.widening options pair))
      plan).size = plan.size := by
  induction pairs generalizing plan with
  | nil => rfl
  | cons pair pairs ih => rw [List.foldl_cons, ih, Plan.size_widen]

theorem size_plan (layout : Layout) (options : RenderOptions) :
    (layout.plan options).size = layout.pieces.size := by
  rw [plan, size_foldl_widen]
  simp [Plan.unchanged]

theorem widened_eq (layout : Layout) (options : RenderOptions) : layout.widened options =
    (layout.plan options).piecesTo layout.pieces layout.pieces.size := by
  rw [Plan.piecesTo, ← layout.size_plan options, Plan.orderTo_size]
  rfl

/-- With the sections widened, XML stands among the elements among which it stood in the part. -/
theorem InPlace.meets_widened {Q : Text → Prop} {layout : Layout} (placed : InPlace Q layout)
    (options : RenderOptions) : Meets (Stands layout.pieces) [] (layout.widened options) := by
  rw [layout.widened_eq]
  exact (placed.fair_plan options).meets_piecesTo placed.laid (Nat.le_refl _)

/-- The pieces with their sections widened pass through the elements of the part: all of them are
closed in the end, and value tags still stand in text elements. -/
theorem InPlace.passAll_widened {Q : Text → Prop} {layout : Layout} (placed : InPlace Q layout)
    (options : RenderOptions) : passAll [] (layout.widened options) = some [] := by
  have fair := placed.fair_plan options
  have ends : Edge.openedAt (edgeRows layout.pieces) layout.pieces.size = [] := by
    rw [← length_edgeRows, Edge.openedAt_length placed.laid.walked]
  rw [layout.widened_eq,
    fair.passAll_piecesTo placed.laid (Nat.le_refl _) (Plan.outside_size _ _), ends]

end Layout

end WordMerge
