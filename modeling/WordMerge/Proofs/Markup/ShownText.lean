import WordMerge.Markup.PlainText
import WordMerge.Proofs.Markup.Enclosure
import WordMerge.Proofs.Markup.References

namespace WordMerge

namespace Item

/-- Character data of two rows of items that are joined comes from one of them or from both. -/
theorem text_mem_join {a b : List Item} {raw : Text} (found : .text raw ∈ join a b) :
    .text raw ∈ a ∨ .text raw ∈ b ∨
      ∃ front back, raw = front ++ back ∧ .text front ∈ a ∧ .text back ∈ b := by
  induction a with
  | nil => exact .inr (.inl found)
  | cons item a ih =>
    cases a with
    | cons next a =>
      rcases List.mem_cons.mp found with here | later
      · exact .inl (here ▸ List.mem_cons_self)
      · rcases ih later with inA | inB | ⟨front, back, split, inA, inB⟩
        · exact .inl (List.mem_cons_of_mem item inA)
        · exact .inr (.inl inB)
        · exact .inr (.inr ⟨front, back, split, List.mem_cons_of_mem item inA, inB⟩)
    | nil =>
      have apart (same : join [item] b = item :: b) :
          .text raw ∈ [item] ∨ .text raw ∈ b ∨
            ∃ front back, raw = front ++ back ∧ .text front ∈ [item] ∧ .text back ∈ b := by
        rw [same] at found
        rcases List.mem_cons.mp found with here | later
        · exact .inl (here ▸ List.mem_cons_self)
        · exact .inr (.inl later)
      cases item with
      | markup other => exact apart rfl
      | text front =>
        cases b with
        | nil => exact apart rfl
        | cons first rest =>
          cases first with
          | markup other => exact apart rfl
          | text back =>
            rcases List.mem_cons.mp found with here | later
            · exact .inr (.inr ⟨front, back, Item.text.inj here, List.mem_cons_self,
                List.mem_cons_self⟩)
            · exact .inr (.inl (List.mem_cons_of_mem _ later))

end Item

/-- XML whose character data has ampersands only where references begin. -/
def Text.Referenced (s : Text) : Prop :=
  ∀ raw, .text raw ∈ Item.scan s → Entity.Complete raw

namespace Text

/-- Whole texts with complete references can be put together. -/
theorem Referenced.append {a b : Text} (whole : Whole a) (first : Referenced a)
    (second : Referenced b) : Referenced (a ++ b) := by
  intro raw found
  rw [Item.scan_append whole] at found
  rcases Item.text_mem_join found with inA | inB | ⟨front, back, rfl, inA, inB⟩
  · exact first raw inA
  · exact second raw inB
  · exact (first front inA).append (second back inB)

theorem scan_of_plain {s : Text} (filled : s ≠ []) (plain : '<' ∉ s) : Item.scan s = [.text s] := by
  have scanned : Item.scan (s ++ []) = .text s :: Item.scan [] :=
    Item.scan_text filled plain (by simp)
  rwa [List.append_nil, Item.scan_nil] at scanned

theorem referenced_of_plain {s : Text} (plain : '<' ∉ s) (complete : Entity.Complete s) :
    Referenced s := by
  intro raw found
  by_cases empty : s = []
  · simp [empty] at found
  · rw [scan_of_plain empty plain, List.mem_singleton] at found
    cases found
    exact complete

theorem referenced_of_cut {s : Text} (cut : Item.Cut s) : Referenced s := by
  intro raw found
  rw [cut.scan_eq, List.mem_singleton] at found
  cases found

end Text

namespace PlainText

/-- Whether two extractions have found the same text and are both inside or both outside text
elements. -/
structure Same (p q : PlainText) : Prop where
  text : p.text = q.text
  inText : p.inText = q.inText

/-- Adds text as it is. -/
def add (plain : PlainText) (text : Text) : PlainText :=
  { plain with pieces := text :: plain.pieces }

@[simp] theorem text_add (plain : PlainText) (text : Text) :
    (plain.add text).text = plain.text ++ text := by
  simp [PlainText.text, add]

@[simp] theorem inText_add (plain : PlainText) (text : Text) :
    (plain.add text).inText = plain.inText := rfl

theorem Same.refl (p : PlainText) : Same p p :=
  ⟨rfl, rfl⟩

theorem Same.symm {p q : PlainText} (same : Same p q) : Same q p :=
  ⟨same.text.symm, same.inText.symm⟩

theorem Same.trans {p q r : PlainText} (first : Same p q) (second : Same q r) : Same p r :=
  ⟨first.text.trans second.text, first.inText.trans second.inText⟩

theorem Same.add {p q : PlainText} (same : Same p q) (text : Text) :
    Same (p.add text) (q.add text) :=
  ⟨by simp [same.text], same.inText⟩

theorem same_add_add (p : PlainText) (a b : Text) : Same ((p.add a).add b) (p.add (a ++ b)) :=
  ⟨by simp, rfl⟩

/-- Extractions that are the same stay the same, item by item. -/
theorem Same.step {p q : PlainText} (same : Same p q) (item : Item) :
    Same (p.step item) (q.step item) := by
  cases item with
  | markup raw =>
    simp only [PlainText.step]
    split
    · exact ⟨same.text, rfl⟩
    · exact ⟨same.text, rfl⟩
    · exact same.add _
    · exact same.add _
    · exact same
  | text raw =>
    simp only [PlainText.step, same.inText]
    split
    · have grown := same.add (Entity.unescape raw)
      exact ⟨grown.text, rfl⟩
    · exact same

theorem Same.foldl {p q : PlainText} (same : Same p q) (items : List Item) :
    Same (items.foldl PlainText.step p) (items.foldl PlainText.step q) := by
  induction items generalizing p q with
  | nil => exact same
  | cons item rest ih => exact ih (same.step item)

/-- Complete character data may be read in two pieces. -/
theorem same_step_append (p : PlainText) {a : Text} (complete : Entity.Complete a) (b : Text) :
    Same (p.step (.text (a ++ b))) ((p.step (.text a)).step (.text b)) := by
  cases inside : p.inText with
  | false => simp [PlainText.step, inside, Same.refl]
  | true =>
    have whole : p.step (.text (a ++ b)) = p.add (Entity.unescape (a ++ b)) := by
      simp [PlainText.step, inside, add]
    have first : p.step (.text a) = p.add (Entity.unescape a) := by
      simp [PlainText.step, inside, add]
    have second : (p.add (Entity.unescape a)).step (.text b) =
        (p.add (Entity.unescape a)).add (Entity.unescape b) := by
      simp [PlainText.step, inside, add]
    rw [whole, first, second, Entity.unescape_append complete]
    exact (same_add_add p _ _).symm

/-- Joined items give the text that they give one after the other. -/
theorem foldl_join {a b : List Item} (complete : ∀ raw, .text raw ∈ a → Entity.Complete raw)
    (p : PlainText) :
    Same ((Item.join a b).foldl step p) (b.foldl step (a.foldl step p)) := by
  induction a generalizing p with
  | nil => exact Same.refl _
  | cons item a ih =>
    cases a with
    | cons next a => exact ih (fun raw found => complete raw (List.mem_cons_of_mem _ found)) _
    | nil =>
      cases item with
      | markup raw => exact Same.refl _
      | text raw =>
        cases b with
        | nil => exact Same.refl _
        | cons first rest =>
          cases first with
          | markup other => exact Same.refl _
          | text more => exact (same_step_append p (complete raw List.mem_cons_self) more).foldl rest

/-- Parts put together give the text of the first and then the text of the second one. -/
theorem foldl_scan_append {a : Text} (whole : Text.Whole a) (referenced : Text.Referenced a)
    (b : Text) (p : PlainText) :
    Same ((Item.scan (a ++ b)).foldl step p)
      ((Item.scan b).foldl step ((Item.scan a).foldl step p)) := by
  rw [Item.scan_append whole]
  exact foldl_join referenced p

/-- Markup changes the side of text elements as it changes the open elements. -/
theorem inText_step {p : PlainText} {opened after : List Text} {raw : Text} {edge : Edge}
    (found : Edge.ofMarkup? raw = some edge) (passed : Edge.passInText opened edge = some after)
    (innermost : TextInnermost opened) (inText : p.inText = true ↔ opened.head? = some textName) :
    (p.step (.markup raw)).inText = true ↔ after.head? = some textName := by
  have role : Landmark.ofMarkup raw = Landmark.ofEdge edge := by
    rw [Landmark.ofMarkup, found, Option.elim_some]
  have different : paragraphName ≠ textName := by decide
  simp only [PlainText.step, role]
  rcases Edge.passInText_cases passed innermost with ⟨role, rfl, outside⟩ | ⟨role, rfl, outside⟩ |
    ⟨role, rfl, rfl⟩ | ⟨role, rfl, outside⟩ | ⟨role, around, outside, still⟩
  · simp [role, inText, outside, different]
  · simp [role, inText, outside, different]
  · simp [role]
  · simp [role, outside]
  · simp only [outside, iff_false, Bool.not_eq_true] at inText
    cases landmark : Landmark.ofEdge edge <;> simp_all

/-- The extraction is inside a text element exactly where one is open. -/
theorem inText_of_walk {items : List Item} {p : PlainText} {opened after : List Text}
    (walked : Edge.walk opened (items.filterMap Edge.ofItem?) = some after)
    (innermost : TextInnermost opened) (inText : p.inText = true ↔ opened.head? = some textName) :
    (items.foldl step p).inText = true ↔ after.head? = some textName := by
  induction items generalizing p opened with
  | nil =>
    cases walked
    exact inText
  | cons item rest ih =>
    cases item with
    | text raw =>
      refine ih walked innermost ?_
      simp only [PlainText.step]
      split <;> simpa using inText
    | markup raw =>
      cases edge : Edge.ofMarkup? raw with
      | none =>
        have unchanged : p.step (.markup raw) = p := by
          simp [PlainText.step, Landmark.ofMarkup, edge]
        rw [List.filterMap_cons, Edge.ofItem?, edge] at walked
        rw [List.foldl_cons, unchanged]
        exact ih walked innermost inText
      | some edge =>
        rw [List.filterMap_cons, Edge.ofItem?, edge] at walked
        obtain ⟨between, passed, later⟩ := Option.bind_eq_some_iff.mp walked
        exact ih later (Edge.passInText_innermost passed innermost)
          (inText_step edge passed innermost inText)

end PlainText

end WordMerge
