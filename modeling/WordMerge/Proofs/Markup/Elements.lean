import Mathlib.Data.List.Chain
import WordMerge.Markup.Edge
import WordMerge.Proofs.Markup.Scan

namespace WordMerge

namespace Edge

/-- The open elements behind an edge, the innermost one first. An end tag has to fit the innermost
open element. -/
def pass (opened : List Text) (edge : Edge) : Option (List Text) :=
  match edge.side with
  | .empty => some opened
  | .opening => some (edge.name :: opened)
  | .closing =>
    match opened with
    | [] => none
    | top :: outer => if top = edge.name then some outer else none

/-- The open elements behind some edges. -/
def passAll (opened : List Text) (edges : List Edge) : Option (List Text) :=
  edges.foldlM pass opened

/-- Whether markup with the given edges can stand any number of times in a section: there are open
elements that it leaves as they were. -/
def Repeats (edges : List Edge) : Prop :=
  ∃ opened, passAll opened edges = some opened

/-- The start tag of a text element. -/
def textOpening : Edge := ⟨textName, .opening⟩

/-- The end tag of a text element. -/
def textClosing : Edge := ⟨textName, .closing⟩

/-- The open elements behind an edge, where nothing may stand in a text element but its end. -/
def passInText (opened : List Text) (edge : Edge) : Option (List Text) :=
  if opened.head? = some textName ∧ edge ≠ textClosing then none else pass opened edge

/-- The open elements behind some edges, where nothing may stand in a text element. -/
def walk (opened : List Text) (edges : List Edge) : Option (List Text) :=
  edges.foldlM passInText opened

theorem scan_eq_markups (source : Text) :
    scan source = (Item.markups source).filterMap ofMarkup? := by
  rw [scan, Item.markups, List.filterMap_filterMap]
  congr 1
  funext item
  cases item <;> rfl

/-- Behind whole items, the edges of what follows come behind the edges before. -/
theorem scan_append {a : Text} (whole : Text.Whole a) (b : Text) :
    scan (a ++ b) = scan a ++ scan b := by
  simp [scan_eq_markups, Item.markups_append whole]

theorem scan_flatten {pieces : List Text} (whole : ∀ piece ∈ pieces, Text.Whole piece) :
    scan pieces.flatten = pieces.flatMap scan := by
  induction pieces with
  | nil => simp [scan]
  | cons piece rest ih =>
    rw [List.forall_mem_cons] at whole
    rw [List.flatten_cons, scan_append whole.1, ih whole.2, List.flatMap_cons]

theorem scan_of_plain {s : Text} (plain : '<' ∉ s) : scan s = [] := by
  simp [scan_eq_markups, Item.markups_of_plain plain]

theorem scan_of_cut {raw : Text} (cut : Item.Cut raw) : scan raw = (ofMarkup? raw).toList := by
  rw [scan_eq_markups, cut.markups_eq]
  rw [List.filterMap_cons]
  cases ofMarkup? raw <;> rfl

/-- `Passed opened edge after`: from the open elements `opened` an edge leads to `after`. -/
inductive Passed : List Text → Edge → List Text → Prop
  | empty (name : Text) {opened : List Text} : Passed opened ⟨name, .empty⟩ opened
  | opening (name : Text) {opened : List Text} : Passed opened ⟨name, .opening⟩ (name :: opened)
  | closing (name : Text) {outer : List Text} : Passed (name :: outer) ⟨name, .closing⟩ outer

/-- An edge leads from some open elements to others in one of three ways. -/
theorem pass_eq_some {opened after : List Text} {edge : Edge} :
    pass opened edge = some after ↔ Passed opened edge after := by
  constructor
  · intro passed
    obtain ⟨name, side⟩ := edge
    cases side with
    | empty =>
      cases passed
      exact .empty name
    | opening =>
      cases passed
      exact .opening name
    | closing =>
      cases opened with
      | nil => cases passed
      | cons top outer =>
        simp only [pass] at passed
        split at passed
        · next same =>
          cases passed
          subst same
          exact .closing top
        · cases passed
  · intro passed
    cases passed with
    | empty name => rfl
    | opening name => rfl
    | closing name => exact if_pos rfl

/-- What an edge does to the open elements does not depend on the elements around them. -/
theorem pass_append_right {opened after : List Text} {edge : Edge}
    (passed : pass opened edge = some after) (outer : List Text) :
    pass (opened ++ outer) edge = some (after ++ outer) := by
  refine pass_eq_some.mpr ?_
  cases pass_eq_some.mp passed with
  | empty name => exact .empty name
  | opening name => exact .opening name
  | closing name => exact .closing name

theorem passAll_append (opened : List Text) (a b : List Edge) :
    passAll opened (a ++ b) = (passAll opened a).bind (passAll · b) :=
  List.foldlM_append

/-- What leaves the open elements as they were does so any number of times. -/
theorem passAll_replicate {opened : List Text} {edges : List Edge}
    (same : passAll opened edges = some opened) (copies : Nat) :
    passAll opened (List.replicate copies edges).flatten = some opened := by
  induction copies with
  | zero => rfl
  | succ copies ih =>
    rw [List.replicate_succ, List.flatten_cons, passAll_append, same]
    exact ih

theorem walk_append (opened : List Text) (a b : List Edge) :
    walk opened (a ++ b) = (walk opened a).bind (walk · b) :=
  List.foldlM_append

@[simp] theorem walk_nil (opened : List Text) : walk opened [] = some opened := rfl

theorem walk_cons (opened : List Text) (edge : Edge) (rest : List Edge) :
    walk opened (edge :: rest) = (passInText opened edge).bind (walk · rest) :=
  rfl

theorem walk_append_eq_some {opened after : List Text} {a b : List Edge} :
    walk opened (a ++ b) = some after ↔ ∃ between, walk opened a = some between ∧
      walk between b = some after := by
  rw [walk_append, Option.bind_eq_some_iff]

end Edge

namespace Landmark

/-- The edge that has a role. -/
def edge? : Landmark → Option Edge
  | .paragraphStart => some ⟨paragraphName, .opening⟩
  | .paragraphEnd => some ⟨paragraphName, .closing⟩
  | .textStart => some Edge.textOpening
  | .textEnd => some Edge.textClosing
  | .rowStart => some ⟨rowName, .opening⟩
  | .rowEnd => some ⟨rowName, .closing⟩
  | .cellStart => some ⟨cellName, .opening⟩
  | .cellEnd => some ⟨cellName, .closing⟩
  | .lineBreak => some ⟨breakName, .empty⟩
  | .other => none

variable {role : Landmark} {own edge : Edge}

/-- A role other than `other` belongs to one edge. -/
theorem ofEdge_eq_iff (stands : role.edge? = some own) : ofEdge edge = role ↔ edge = own := by
  constructor
  · rintro rfl
    obtain ⟨name, side⟩ := edge
    cases side <;> simp only [ofEdge] at stands
    all_goals
      repeat' split at stands
      all_goals cases stands
      all_goals simp [Edge.textOpening, Edge.textClosing, *]
  · rintro rfl
    cases role <;> cases stands <;> decide

theorem ofMarkup_eq_iff {raw : Text} (stands : role.edge? = some own) :
    ofMarkup raw = role ↔ Edge.ofMarkup? raw = some own := by
  rw [ofMarkup]
  cases Edge.ofMarkup? raw with
  | none => cases role <;> cases stands <;> simp
  | some edge => rw [Option.elim_some, ofEdge_eq_iff stands, Option.some.injEq]

/-- An edge has none of some roles if it is the edge of none. -/
theorem ofEdge_not_mem {roles : List Landmark}
    (other : ∀ role ∈ roles, ∃ own, role.edge? = some own ∧ edge ≠ own) : ofEdge edge ∉ roles := by
  intro member
  obtain ⟨own, stands, different⟩ := other _ member
  exact different ((ofEdge_eq_iff stands).mp rfl)

end Landmark

/-- A part whose markup has its ends and whose elements nest. -/
structure WellFormed (source : Text) : Prop where
  whole : Text.Whole source
  nested : Edge.passAll [] (Edge.scan source) = some []

/-- A part whose text elements hold character data and markup without edges only: behind the start
tag of a text element the next edge is its end tag. -/
def TextOnly (source : Text) : Prop :=
  (Edge.scan source).IsChain fun edge next => edge = Edge.textOpening → next = Edge.textClosing

/-- No text element is open around the innermost open element. -/
def TextInnermost (opened : List Text) : Prop :=
  textName ∉ opened.tail

namespace Edge

/-- What is passed with text elements in view is passed without, and in a text element only its end
is. -/
theorem passInText_eq_some {opened after : List Text} {edge : Edge}
    (step : passInText opened edge = some after) :
    pass opened edge = some after ∧ (opened.head? = some textName → edge = textClosing) := by
  unfold passInText at step
  split at step
  · cases step
  · next free =>
    refine ⟨step, fun inside => ?_⟩
    by_contra other
    exact free ⟨inside, other⟩

/-- A walk with text elements in view is a walk without. -/
theorem passAll_of_walk {opened after : List Text} {edges : List Edge}
    (walked : walk opened edges = some after) : passAll opened edges = some after := by
  induction edges generalizing opened with
  | nil => exact walked
  | cons edge rest ih =>
    obtain ⟨next, step, walked⟩ := Option.bind_eq_some_iff.mp walked
    rw [passAll, List.foldlM_cons, (passInText_eq_some step).1]
    exact ih walked

/-- Text elements stay innermost. -/
theorem passInText_innermost {opened after : List Text} {edge : Edge}
    (step : passInText opened edge = some after) (innermost : TextInnermost opened) :
    TextInnermost after := by
  obtain ⟨passed, inText⟩ := passInText_eq_some step
  cases pass_eq_some.mp passed with
  | empty name => exact innermost
  | opening name =>
    intro member
    cases opened with
    | nil => cases member
    | cons top outer =>
      rcases List.mem_cons.mp member with same | later
      · have closing := inText (by simp [← same])
        cases closing
      · exact innermost later
  | closing name => exact fun member => innermost (List.mem_of_mem_tail member)

theorem walk_innermost {opened after : List Text} {edges : List Edge}
    (walked : walk opened edges = some after) (innermost : TextInnermost opened) :
    TextInnermost after := by
  induction edges generalizing opened with
  | nil =>
    cases walked
    exact innermost
  | cons edge rest ih =>
    obtain ⟨next, step, walked⟩ := Option.bind_eq_some_iff.mp walked
    exact ih walked (passInText_innermost step innermost)

/-- Nested elements whose text elements hold no edges are walked through. -/
theorem walk_of_passAll {opened after : List Text} {edges : List Edge}
    (passed : passAll opened edges = some after)
    (chain : edges.IsChain fun edge next => edge = textOpening → next = textClosing)
    (inText : opened.head? = some textName → ∀ edge ∈ edges.head?, edge = textClosing)
    (innermost : TextInnermost opened) : walk opened edges = some after := by
  induction edges generalizing opened with
  | nil => exact passed
  | cons edge rest ih =>
    obtain ⟨next, step, passed⟩ := Option.bind_eq_some_iff.mp passed
    obtain ⟨follows, chain⟩ := List.isChain_cons.mp chain
    have here : opened.head? = some textName → edge = textClosing :=
      fun inside => inText inside edge rfl
    have walked : passInText opened edge = some next := by
      rw [passInText, if_neg (fun both => both.2 (here both.1)), step]
    have nextInnermost := passInText_innermost walked innermost
    rw [walk_cons, walked]
    refine ih passed chain (fun inside => ?_) nextInnermost
    cases pass_eq_some.mp step with
    | empty name =>
      have closing := here inside
      cases closing
    | opening name =>
      cases Option.some.inj inside
      exact fun later first => follows later first rfl
    | closing name => exact absurd (List.mem_of_mem_head? inside) innermost

end Edge

/-- The text elements of a well-formed part, where they hold no edges, are innermost. -/
theorem WellFormed.walk_eq {source : Text} (formed : WellFormed source)
    (textOnly : TextOnly source) : Edge.walk [] (Edge.scan source) = some [] :=
  Edge.walk_of_passAll formed.nested textOnly (by simp) (by simp [TextInnermost])

end WordMerge
