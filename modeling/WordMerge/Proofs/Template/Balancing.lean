import WordMerge.Proofs.Markup.Elements
import WordMerge.Template.Balance

namespace WordMerge

namespace Balance

variable {balance next last : Balance} {opened before after : List Text} {edge : Edge}
  {edges : List Edge}

theorem track_append (balance : Option Balance) (a b : List Edge) :
    track balance (a ++ b) = track (track balance a) b := by
  cases balance with
  | none => rfl
  | some start => simp [track, List.foldlM_append]

/-- What a balance tells about the open elements: those that were closed from outside stood on
some others, and those that were opened stand on the same ones. -/
def Explains (balance : Balance) (opened after : List Text) : Prop :=
  ∃ base, opened = balance.closed.reverse ++ base ∧ after = balance.opened ++ base

/-- What a balance explains before an edge, the next one explains behind it. -/
theorem Explains.step {balance next : Balance} {opened before after : List Text} {edge : Edge}
    (explains : balance.Explains opened before) (step : balance.step edge = some next)
    (passed : Edge.pass before edge = some after) : next.Explains opened after := by
  obtain ⟨base, rfl, below⟩ := explains
  obtain ⟨closed, inner⟩ := balance
  cases Edge.pass_eq_some.mp passed with
  | empty name =>
    cases step
    exact ⟨base, rfl, below⟩
  | opening name =>
    cases step
    exact ⟨base, rfl, congrArg _ below⟩
  | closing name =>
    cases inner with
    | nil =>
      cases step
      obtain rfl : name :: after = base := below
      exact ⟨after, by simp, rfl⟩
    | cons top inner =>
      simp only [Balance.step] at step
      split at step
      · cases step
        exact ⟨base, rfl, (List.cons.inj below).2⟩
      · cases step

/-- Where an edge can be passed, a balance that explains the elements before it goes on. -/
theorem Explains.exists_step (explains : balance.Explains opened before)
    (passed : Edge.pass before edge = some after) : ∃ next, balance.step edge = some next := by
  obtain ⟨base, rfl, below⟩ := explains
  obtain ⟨closed, inner⟩ := balance
  cases Edge.pass_eq_some.mp passed with
  | empty name => exact ⟨_, rfl⟩
  | opening name => exact ⟨_, rfl⟩
  | closing name =>
    cases inner with
    | nil => exact ⟨_, rfl⟩
    | cons top inner => exact ⟨⟨closed, inner⟩, if_pos (List.cons.inj below).1.symm⟩

/-- A balance goes on as long as the markup passes through the elements that it explains. -/
theorem Explains.exists_foldlM (explains : balance.Explains opened before)
    (passed : Edge.passAll before edges = some after) :
    ∃ last, edges.foldlM Balance.step balance = some last ∧ last.Explains opened after := by
  induction edges generalizing balance before with
  | nil =>
    cases passed
    exact ⟨balance, rfl, explains⟩
  | cons edge rest ih =>
    obtain ⟨between, pass, passed⟩ := Option.bind_eq_some_iff.mp passed
    obtain ⟨next, step⟩ := explains.exists_step pass
    obtain ⟨last, tracked, later⟩ := ih (explains.step step pass) passed
    exact ⟨last, by rw [List.foldlM_cons, step]; exact tracked, later⟩

/-- What a balance explains behind an edge comes from what it explains before it. -/
theorem Explains.exists_pass (step : balance.step edge = some next)
    (explains : next.Explains opened after) :
    ∃ before, balance.Explains opened before ∧ Edge.pass before edge = some after := by
  obtain ⟨base, rfl, rfl⟩ := explains
  obtain ⟨closed, inner⟩ := balance
  obtain ⟨name, side⟩ := edge
  cases side with
  | empty =>
    cases step
    exact ⟨inner ++ base, ⟨base, rfl, rfl⟩, rfl⟩
  | opening =>
    cases step
    exact ⟨inner ++ base, ⟨base, rfl, rfl⟩, rfl⟩
  | closing =>
    cases inner with
    | nil =>
      -- The element is closed from outside, so it stands on top of what is below.
      cases step
      exact ⟨name :: base, ⟨name :: base, by simp, rfl⟩, if_pos rfl⟩
    | cons top inner =>
      simp only [Balance.step] at step
      split at step
      · next same =>
        cases step
        exact ⟨top :: inner ++ base, ⟨base, rfl, rfl⟩, if_pos same⟩
      · cases step

/-- What a balance explains at the end comes from what it explains at the start. -/
theorem Explains.exists_passAll (tracked : edges.foldlM Balance.step balance = some last)
    (explains : last.Explains opened after) :
    ∃ before, balance.Explains opened before ∧ Edge.passAll before edges = some after := by
  induction edges generalizing balance with
  | nil =>
    cases tracked
    exact ⟨after, explains, rfl⟩
  | cons edge rest ih =>
    obtain ⟨next, step, tracked⟩ := Option.bind_eq_some_iff.mp tracked
    obtain ⟨between, explained, passed⟩ := ih tracked
    obtain ⟨before, start, pass⟩ := Explains.exists_pass step explained
    exact ⟨before, start, by rw [Edge.passAll, List.foldlM_cons, pass]; exact passed⟩

theorem explains_start : Explains {} opened before ↔ before = opened := by
  constructor
  · rintro ⟨base, rfl, rfl⟩
    rfl
  · rintro rfl
    exact ⟨before, rfl, rfl⟩

/-- The markup leads from some open elements to others exactly if its balance explains this. Broken
markup leads nowhere. -/
theorem passAll_eq_some_iff : Edge.passAll opened edges = some after ↔
    ∃ last, edges.foldlM Balance.step {} = some last ∧ last.Explains opened after := by
  constructor
  · intro passed
    exact (explains_start.mpr rfl : Explains {} opened opened).exists_foldlM passed
  · rintro ⟨last, tracked, explains⟩
    obtain ⟨before, start, passed⟩ := Explains.exists_passAll tracked explains
    rwa [explains_start.mp start] at passed

/-- What a balance explains tells whether the markup can be repeated. -/
theorem Explains.isBalanced_iff (explains : balance.Explains opened after) :
    isBalanced (some balance) = true ↔ after = opened := by
  obtain ⟨base, rfl, rfl⟩ := explains
  rw [isBalanced, restores, beq_iff_eq, List.append_cancel_right_eq, ← List.reverse_inj,
    List.reverse_reverse]

/-- Markup is balanced exactly if there are open elements that it leaves as they were. -/
theorem repeats_iff_isBalanced :
    Edge.Repeats edges ↔ isBalanced (track (some {}) edges) = true := by
  rw [track, Option.bind_some]
  constructor
  · rintro ⟨opened, same⟩
    obtain ⟨last, tracked, explains⟩ := passAll_eq_some_iff.mp same
    rw [tracked]
    exact explains.isBalanced_iff.mpr rfl
  · intro balanced
    cases tracked : edges.foldlM Balance.step {} with
    | none => simp [tracked, isBalanced] at balanced
    | some last =>
      -- The fewest such elements are those that the markup closes from outside.
      have least : last.Explains last.closed.reverse last.opened := ⟨[], by simp, by simp⟩
      rw [tracked, least.isBalanced_iff] at balanced
      exact ⟨last.closed.reverse, passAll_eq_some_iff.mpr ⟨last, tracked, balanced ▸ least⟩⟩

instance (edges : List Edge) : Decidable (Edge.Repeats edges) :=
  decidable_of_iff _ repeats_iff_isBalanced.symm

/-- Markup that leaves some open elements as they were leaves all as they were, wherever it fits. -/
theorem passAll_eq_of_repeats (repeats : Edge.Repeats edges)
    (passed : Edge.passAll opened edges = some after) : after = opened := by
  obtain ⟨last, tracked, explains⟩ := passAll_eq_some_iff.mp passed
  have balanced := repeats_iff_isBalanced.mp repeats
  rw [track, Option.bind_some, tracked] at balanced
  exact explains.isBalanced_iff.mp balanced

/-- The balance of some strings, taken into account one after the other. -/
def ofStrings (strings : List Text) : Option Balance :=
  strings.foldl (fun balance xml => track balance (Edge.scan xml)) (some {})

theorem foldl_track (balance : Option Balance) (strings : List Text) :
    strings.foldl (fun balance xml => track balance (Edge.scan xml)) balance =
      track balance (strings.flatMap Edge.scan) := by
  induction strings generalizing balance with
  | nil => cases balance <;> rfl
  | cons xml rest ih => rw [List.foldl_cons, ih, List.flatMap_cons, track_append]

theorem ofStrings_eq {strings : List Text} (whole : ∀ xml ∈ strings, Text.Whole xml) :
    ofStrings strings = track (some {}) (Edge.scan strings.flatten) := by
  rw [ofStrings, foldl_track, Edge.scan_flatten whole]

/-- Strings of whole items are balanced exactly if there are open elements that their markup leaves as
they were, and from such elements on any number of copies of the strings does so too. -/
theorem isBalanced_ofStrings {strings : List Text} (whole : ∀ xml ∈ strings, Text.Whole xml) :
    (isBalanced (ofStrings strings) = true ↔
        ∃ opened, Edge.passAll opened (Edge.scan strings.flatten) = some opened) ∧
      ∀ opened, Edge.passAll opened (Edge.scan strings.flatten) = some opened → ∀ copies,
        Edge.passAll opened (Edge.scan (List.replicate copies strings.flatten).flatten) =
          some opened := by
  constructor
  · rw [ofStrings_eq whole]
    exact repeats_iff_isBalanced.symm
  · intro opened same copies
    have joined : Text.Whole strings.flatten := Item.whole_flatten whole
    have copied : ∀ copy ∈ List.replicate copies strings.flatten, Text.Whole copy :=
      fun copy member => List.eq_of_mem_replicate member ▸ joined
    rw [Edge.scan_flatten copied, List.flatMap_replicate]
    exact Edge.passAll_replicate same copies

/-- The markup of a section that goes from one paragraph on to the next: it closes what stood around it
and opens the same again. -/
def acrossParagraphs : List Text :=
  ["</w:t></w:p><!-- </w:p> -->".toList, "<w:p><w:br/>".toList, "<w:t>".toList]

theorem isBalanced_ofStrings_acrossParagraphs :
    (∀ xml ∈ acrossParagraphs, Text.Whole xml) ∧
      isBalanced (ofStrings acrossParagraphs) = true ∧
      Edge.passAll [textName, paragraphName]
          (Edge.scan (List.replicate 3 acrossParagraphs.flatten).flatten) =
        some [textName, paragraphName] := by
  have finished : ∀ xml ∈ acrossParagraphs, ∀ raw ∈ Item.markups xml,
      Item.finished raw = true := by decide +kernel
  have whole : ∀ xml ∈ acrossParagraphs, Text.Whole xml :=
    fun xml member => Text.whole_iff.mpr (finished xml member)
  have same : Edge.passAll [textName, paragraphName] (Edge.scan acrossParagraphs.flatten) =
      some [textName, paragraphName] := by decide +kernel
  obtain ⟨balanced, copied⟩ := isBalanced_ofStrings whole
  exact ⟨whole, balanced.mpr ⟨_, same⟩, copied _ same 3⟩

end Balance

end WordMerge
