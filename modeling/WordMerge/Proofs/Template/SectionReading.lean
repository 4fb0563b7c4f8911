import Mathlib.Data.List.Induction
import WordMerge.Proofs.Template.Balancing
import WordMerge.Proofs.Template.NestingSteps
import WordMerge.Proofs.Template.SectionGrammar

namespace WordMerge

namespace Nesting

open Piece Node

/-- Adds a finished node and takes its XML into account. -/
def place (n : Nesting) : Node → Nesting
  | .verbatim xml => (n.track xml).add (.verbatim xml)
  | node => n.add node

theorem foldl_place_root (nodes root : List Node) (faults : List TagFault) (tooDeep : Nat) :
    nodes.foldl place ⟨root, [], faults, tooDeep⟩ =
      ⟨nodes.reverse ++ root, [], faults, tooDeep⟩ := by
  induction nodes generalizing root with
  | nil => rfl
  | cons node rest ih =>
    cases node <;> simp [place, track, add, ih]

/-- Inside a section, nodes are added to its body and its balance. -/
theorem foldl_place_inner (n : Nesting) (inner : OpenSection) (outer : List OpenSection)
    (nodes : List Node) :
    nodes.foldl place { n with sections := inner :: outer } =
      { n with
        sections :=
          ⟨inner.tag, nodes.reverse ++ inner.body, Balance.track inner.balance (ownEdges nodes)⟩
            :: outer } := by
  induction nodes generalizing inner with
  | nil =>
    have unchanged : Balance.track inner.balance [] = inner.balance := by
      cases inner.balance <;> rfl
    simp [unchanged]
  | cons node rest ih =>
    cases node <;> simp [place, track, add, ih, Balance.track_append]

/-- Opening, filling and closing a section that can be repeated adds it as one node. -/
theorem closeSection_filled {n : Nesting} {tag : PlacedTag} {body : List Node}
    (shallow : n.tooDeep = 0) (repeats : Edge.Repeats (ownEdges body)) :
    (body.foldl place { n with sections := ⟨tag, [], some {}⟩ :: n.sections }).closeSection
      tag.name = n.add (.block tag body) := by
  rw [foldl_place_inner]
  have balanced : Balance.isBalanced (Balance.track (some {}) (ownEdges body)) = true :=
    Balance.repeats_iff_isBalanced.mp repeats
  obtain ⟨root, sections, faults, tooDeep⟩ := n
  simp_all [closeSection, OpenSection.closingFault?, OpenSection.close]

theorem place_tooDeep (n : Nesting) (node : Node) : (n.place node).tooDeep = n.tooDeep := by
  cases node <;> simp only [place, add_tooDeep, track]
  split <;> rfl

theorem place_sections_length (n : Nesting) (node : Node) :
    (n.place node).sections.length = n.sections.length := by
  cases node <;> simp only [place, add_sections_length, track]
  split <;> simp_all

/-- Passing the pieces of a sound tree adds its nodes, as long as its levels are left. -/
theorem foldl_step_flattenAll (nodes : List Node) {levels : Nat} {n : Nesting}
    (sound : SoundAll levels nodes) (shallow : n.tooDeep = 0)
    (room : n.sections.length + levels ≤ depthLimit) :
    (flattenAll nodes).foldl step n = nodes.foldl place n := by
  induction nodes using Node.row_induction generalizing levels n with
  | nil => rfl
  | verbatim xml rest ih =>
    obtain ⟨filled, sound⟩ := soundAll_cons.mp sound
    have passed : n.step (.verbatim xml) = n.place (.verbatim xml) := by
      simp [step, place, sound_verbatim.mp filled]
    rw [flattenAll_verbatim, List.foldl_cons, List.foldl_cons, passed]
    exact ih sound (by rw [place_tooDeep, shallow]) (by rw [place_sections_length]; exact room)
  | value tag rest ih =>
    obtain ⟨kind, sound⟩ := soundAll_cons.mp sound
    have passed : n.step (.tag tag) = n.place (.value tag) := by
      simp [step, place, sound_value.mp kind]
    rw [flattenAll_value, List.foldl_cons, List.foldl_cons, passed]
    exact ih sound (by rw [place_tooDeep, shallow]) (by rw [place_sections_length]; exact room)
  | block tag body rest ihBody ih =>
    obtain ⟨blockSound, sound⟩ := soundAll_cons.mp sound
    obtain ⟨below, rfl, opens, bodySound, repeats⟩ := sound_block.mp blockSound
    have opened : n.step (.tag tag) =
        { n with sections := ⟨tag, [], some {}⟩ :: n.sections } := by
      have fits : n.sections.length < depthLimit := by omega
      cases kind : tag.kind <;> simp_all [step, openSection, TagKind.opens]
    have filled := ihBody (n := { n with sections := ⟨tag, [], some {}⟩ :: n.sections })
      bodySound shallow (by simp only [List.length_cons]; omega)
    have closed : Nesting.step (body.foldl place
        { n with sections := ⟨tag, [], some {}⟩ :: n.sections }) (.tag tag.ending) =
        n.place (.block tag body) := closeSection_filled shallow repeats
    rw [flattenAll_block, List.foldl_cons, List.foldl_append, List.foldl_cons, opened, filled,
      closed, List.foldl_cons]
    exact ih sound (by rw [place_tooDeep, shallow]) (by rw [place_sections_length]; exact room)

/-- The pieces that a stack of open sections spells, the outermost section first. -/
def spelled : List OpenSection → List Piece
  | [] => []
  | inner :: outer => spelled outer ++ .tag inner.tag :: flattenAll inner.body.reverse

/-- Whether the open sections are sound so far: each one leaves its body the levels that are left
below it, and has tracked the XML directly in it. -/
def SoundSections : List OpenSection → Prop
  | [] => True
  | inner :: outer =>
    inner.tag.kind.opens = true ∧ outer.length < depthLimit ∧
      SoundAll (depthLimit - (outer.length + 1)) inner.body.reverse ∧
      inner.balance = Balance.track (some {}) (ownEdges inner.body.reverse) ∧
      SoundSections outer

/-- A tree on its way that is sound so far and spells the given pieces. -/
structure Faithful (n : Nesting) (pieces : List Piece) : Prop where
  shallow : n.tooDeep = 0
  root : SoundAll depthLimit n.root.reverse
  sections : SoundSections n.sections
  spells : flattenAll n.root.reverse ++ spelled n.sections = pieces

/-- A sound node may be added where the open sections leave it its levels. -/
theorem Faithful.place {n : Nesting} {pieces : List Piece} {node : Node}
    (faithful : Faithful n pieces) (sound : Sound (depthLimit - n.sections.length) node) :
    Faithful (n.place node) (pieces ++ flatten node) := by
  have one : flattenAll [node] = flatten node := by simp [flattenAll]
  obtain ⟨root, sections, faults, tooDeep⟩ := n
  obtain ⟨shallow, rootSound, sectionsSound, spells⟩ := faithful
  cases sections with
  | nil =>
    have placed := foldl_place_root [node] root faults tooDeep
    simp only [List.foldl_cons, List.foldl_nil, List.reverse_singleton] at placed
    rw [placed]
    refine ⟨shallow, ?_, trivial, ?_⟩
    · simpa [soundAll_append] using ⟨rootSound, sound⟩
    · simp [← spells, flattenAll_append, one, spelled]
  | cons inner outer =>
    have placed := foldl_place_inner ⟨root, inner :: outer, faults, tooDeep⟩ inner outer [node]
    simp only [List.foldl_cons, List.foldl_nil, List.reverse_singleton] at placed
    rw [placed]
    obtain ⟨opens, deep, body, tracked, below⟩ := sectionsSound
    refine ⟨shallow, rootSound, ⟨opens, deep, ?_, ?_, below⟩, ?_⟩
    · simpa [soundAll_append] using ⟨body, sound⟩
    · simp [tracked, ownEdges_append, Balance.track_append]
    · simp [← spells, flattenAll_append, one, spelled]

/-- A section that can be repeated is closed under its own name. -/
theorem Faithful.closed {root : List Node} {inner : OpenSection} {outer : List OpenSection}
    {faults : List TagFault} {tooDeep : Nat} {pieces : List Piece} {tag : PlacedTag}
    (faithful : Faithful ⟨root, inner :: outer, faults, tooDeep⟩ pieces)
    (free : inner.closingFault? tag.name = none) :
    Faithful (add ⟨root, outer, faults, tooDeep⟩ inner.close) (pieces ++ [.tag tag.ending]) := by
  obtain ⟨shallow, rootSound, ⟨opens, deep, body, tracked, below⟩, spells⟩ := faithful
  obtain ⟨named, balanced⟩ := OpenSection.closingFault?_eq_none.mp free
  have outside : Faithful ⟨root, outer, faults, tooDeep⟩
      (flattenAll root.reverse ++ spelled outer) := ⟨shallow, rootSound, below, rfl⟩
  have sound : Sound (depthLimit - outer.length) (.block inner.tag inner.body.reverse) :=
    sound_block.mpr ⟨depthLimit - (outer.length + 1), by omega, opens, body,
      Balance.repeats_iff_isBalanced.mpr (tracked ▸ balanced)⟩
  have ending : tag.ending = inner.tag.ending := by simp [PlacedTag.ending, named]
  rw [← spells, ending]
  simpa [spelled, flatten, Nesting.place, OpenSection.close] using outside.place sound

/-- Passing a piece without a fault keeps the tree faithful. -/
theorem Faithful.passing {n m : Nesting} {pieces : List Piece} {piece : Piece}
    (faithful : Faithful n pieces) (passing : Passing n piece m) (clean : m.faults = []) :
    Faithful m (pieces ++ canonical [piece]) := by
  cases passing with
  | empty => simpa using faithful
  | xml filled =>
    rw [canonical_cons (by simpa using filled)]
    exact faithful.place (sound_verbatim.mpr filled)
  | value kind =>
    rw [canonical_tag, unplaced_of_not_closing (by simp [kind])]
    exact faithful.place (sound_value.mpr kind)
  | opened opens room =>
    obtain ⟨shallow, root, sections, spells⟩ := faithful
    rw [canonical_tag, unplaced_of_not_closing (TagKind.ne_closing_of_opens opens)]
    refine ⟨shallow, root, ⟨opens, room, soundAll_nil _, rfl, sections⟩, ?_⟩
    simp [← spells, spelled]
  | refused => cases clean
  | left _ left => exact absurd faithful.shallow (Nat.ne_of_gt left)
  | unopened => cases clean
  | closed closes _ sections =>
    obtain ⟨root, _, faults, tooDeep⟩ := n
    cases sections
    rw [add_faults, List.append_eq_nil_iff, Option.toList_eq_nil_iff] at clean
    rw [canonical_tag, unplaced_of_closing closes, clean.1]
    exact faithful.closed clean.1

/-- A run without faults keeps the tree faithful. -/
theorem Faithful.foldl_step {past pieces : List Piece} {n : Nesting} (faithful : Faithful n past)
    (clean : (pieces.foldl Nesting.step n).faults = []) :
    Faithful (pieces.foldl Nesting.step n) (past ++ canonical pieces) := by
  induction pieces using List.reverseRecOn with
  | nil => simpa using faithful
  | append_singleton before piece ih =>
    rw [List.foldl_append, List.foldl_cons, List.foldl_nil] at clean ⊢
    rw [canonical_append, ← List.append_assoc]
    have passing := passing_step (before.foldl Nesting.step n) piece
    exact (ih (List.suffix_nil.mp (clean ▸ passing.faults_suffix))).passing passing clean

theorem faithful_start : Faithful {} [] :=
  ⟨rfl, soundAll_nil _, trivial, rfl⟩

/-- A row without faults is spelled by a sound tree. -/
theorem faithful_of_faultless {pieces : List Piece} (clean : (ofPieces pieces).allFaults = []) :
    SoundAll depthLimit (ofPieces pieces).nodes ∧
      flattenAll (ofPieces pieces).nodes = canonical pieces := by
  obtain ⟨noted, unclosed⟩ := List.append_eq_nil_iff.mp clean
  have none : (ofPieces pieces).sections = [] := by simpa using unclosed
  have faithful : Faithful (ofPieces pieces) ([] ++ canonical pieces) :=
    faithful_start.foldl_step (List.reverse_eq_nil_iff.mp noted)
  have nodes : (ofPieces pieces).nodes = (ofPieces pieces).root.reverse := by
    simp [Nesting.nodes, none, closeAll]
  refine ⟨nodes ▸ faithful.root, ?_⟩
  have spells : flattenAll (ofPieces pieces).root.reverse ++ spelled (ofPieces pieces).sections =
      [] ++ canonical pieces := faithful.spells
  rw [nodes]
  simpa [none, spelled] using spells

theorem step_unplaced (n : Nesting) (piece : Piece) : n.step piece.unplaced = n.step piece := by
  cases piece with
  | verbatim xml => rfl
  | tag tag =>
    by_cases closes : tag.kind = .closing
    · rw [unplaced_of_closing closes]
      simp [step, closes, PlacedTag.ending]
    · rw [unplaced_of_not_closing closes]

/-- What no tree keeps does not matter to the nesting. -/
theorem foldl_step_canonical (pieces : List Piece) (n : Nesting) :
    (canonical pieces).foldl step n = pieces.foldl step n := by
  induction pieces generalizing n with
  | nil => rfl
  | cons piece rest ih =>
    by_cases empty : piece = .verbatim []
    · subst empty
      rw [canonical_empty, ih, List.foldl_cons]
      rfl
    · rw [canonical_cons empty, List.foldl_cons, List.foldl_cons, step_unplaced, ih]

/-- The pieces of a sound tree are read back as that tree. -/
theorem ofPieces_of_canonical {pieces : List Piece} {nodes : List Node}
    (sound : SoundAll depthLimit nodes) (spells : canonical pieces = flattenAll nodes) :
    (ofPieces pieces).nodes = nodes ∧ (ofPieces pieces).allFaults = [] := by
  have run : ofPieces pieces = { root := nodes.reverse } := by
    rw [ofPieces, ← foldl_step_canonical, spells,
      foldl_step_flattenAll nodes sound rfl (by simp), foldl_place_root, List.append_nil]
  simp [run, Nesting.nodes, closeAll, allFaults]

/-- No fault is found exactly in the rows of pieces whose sections are nested under one name each,
at most `depthLimit` levels deep, with XML directly inside them that can be repeated. The tree of
such a row spells the row again, without empty XML and up to the places of closing tags; and every
sound tree of at most `depthLimit` levels is read from the pieces that it spells. -/
theorem ofPieces_faultless_iff_wellNested :
    (∀ pieces : List Piece,
      ((ofPieces pieces).allFaults = [] ↔ ∃ edges, Piece.WellNested depthLimit pieces edges) ∧
      ((ofPieces pieces).allFaults = [] →
        Node.flattenAll (ofPieces pieces).nodes = Piece.canonical pieces)) ∧
    ∀ nodes : List Node, Node.SoundAll depthLimit nodes →
      (ofPieces (Node.flattenAll nodes)).nodes = nodes ∧
        (ofPieces (Node.flattenAll nodes)).allFaults = [] := by
  refine ⟨fun pieces => ⟨⟨fun clean => ?_, ?_⟩, fun clean => (faithful_of_faultless clean).2⟩, ?_⟩
  · obtain ⟨sound, spells⟩ := faithful_of_faultless clean
    exact ⟨_, Piece.wellNested_of_tree _ sound spells.symm⟩
  · rintro ⟨edges, nested⟩
    obtain ⟨nodes, sound, spells, _⟩ := nested.exists_tree
    exact (ofPieces_of_canonical sound spells).2
  · intro nodes sound
    exact ofPieces_of_canonical sound (canonical_flattenAll nodes sound)

/-- A section that closes a paragraph and opens another one, around a section with a value. -/
def spanningSection : List Node :=
  [.block ⟨⟨.inverted, ['x']⟩, some 0, none, none⟩
    [.verbatim "</w:p><w:p>".toList,
      .block ⟨⟨.opening, ['y']⟩, some 1, none, none⟩
        [.value ⟨⟨.value, ['z']⟩, some 1, none, none⟩]]]

theorem ofPieces_spanningSection :
    Node.SoundAll depthLimit spanningSection ∧
      (ofPieces (Node.flattenAll spanningSection)).nodes = spanningSection ∧
      (ofPieces (Node.flattenAll spanningSection)).allFaults = [] := by
  have inner : Node.Sound 255 (.block ⟨⟨.opening, ['y']⟩, some 1, none, none⟩
      [.value ⟨⟨.value, ['z']⟩, some 1, none, none⟩]) :=
    Node.sound_block.mpr ⟨254, rfl, rfl, ⟨rfl, trivial⟩, by decide⟩
  have sound : Node.SoundAll depthLimit spanningSection :=
    ⟨Node.sound_block.mpr ⟨255, rfl, rfl, ⟨Node.sound_verbatim.mpr (by decide), inner, trivial⟩,
      by decide +kernel⟩, trivial⟩
  exact ⟨sound, ofPieces_faultless_iff_wellNested.2 spanningSection sound⟩

end Nesting

end WordMerge
