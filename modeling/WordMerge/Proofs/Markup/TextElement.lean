import WordMerge.Markup.Preserve
import WordMerge.Proofs.Markup.Elements

namespace WordMerge

namespace Edge

/-- The start tag of a text element, with its end. -/
structure TextTag (raw : Text) : Prop where
  cut : Item.Cut raw
  edge : ofMarkup? raw = some textOpening

theorem exists_append_of_takeWhile_name {rest name : Text}
    (found : rest.takeWhile (fun c => !endsName c) = name) :
    ∃ tail, rest = name ++ tail ∧ ∀ c ∈ tail.head?, endsName c = true := by
  have split := List.takeWhile_append_dropWhile (p := fun c => !endsName c) (l := rest)
  rw [found] at split
  refine ⟨rest.dropWhile fun c => !endsName c, split.symm, fun c first => ?_⟩
  have stopped := List.head?_dropWhile_not (fun c => !endsName c) rest
  rw [Option.mem_def] at first
  rw [first] at stopped
  simpa using stopped

/-- How the start tag of a text element is written. -/
theorem ofMarkup?_eq_textOpening {raw : Text} :
    ofMarkup? raw = some textOpening ↔
      ∃ tail, raw = '<' :: 'w' :: ':' :: 't' :: tail ∧ (∀ c ∈ tail.head?, endsName c = true) ∧
        endsEmpty raw = false := by
  constructor
  · intro edge
    unfold ofMarkup? at edge
    split at edge
    · cases edge
    · cases edge
    · next rest =>
      unfold ofMarkup?.named at edge
      dsimp only at edge
      split at edge
      · cases edge
      · simp [textOpening] at edge
    · next rest _ _ _ =>
      unfold ofMarkup?.named at edge
      dsimp only at edge
      split at edge
      · cases edge
      · simp only [textOpening, Option.some.injEq, Edge.mk.injEq] at edge
        obtain ⟨name, side⟩ := edge
        have filled : endsEmpty ('<' :: rest) = false := by
          cases ends : endsEmpty ('<' :: rest) with
          | false => rfl
          | true => simp [ends] at side
        obtain ⟨tail, split, border⟩ := exists_append_of_takeWhile_name name
        exact ⟨tail, congrArg (List.cons '<') split, border, filled⟩
    · cases edge
  · rintro ⟨tail, rfl, border, filled⟩
    have name : tail.takeWhile (fun c => !endsName c) = [] := by
      cases tail with
      | nil => rfl
      | cons c tail => simp [border c rfl]
    have letters : endsName 'w' = false ∧ endsName ':' = false ∧ endsName 't' = false := by decide
    simp [ofMarkup?, ofMarkup?.named, filled, letters, name, textOpening, textName]

/-- The tag before its end is closed in itself: no quote is open there. -/
theorem TextTag.exists_before {raw : Text} (tag : TextTag raw) :
    ∃ before tail, raw = before ++ ['>'] ∧ before = '<' :: 'w' :: ':' :: 't' :: tail ∧
      (∀ c ∈ tail.head?, endsName c = true) ∧
      before.foldlM Item.quoteStep none = some none := by
  obtain ⟨tail, rfl, border, _⟩ := ofMarkup?_eq_textOpening.mp tag.edge
  have plain (after : Text) : Item.terminator? ('<' :: 'w' :: after) = none := by
    simp [Item.terminator?]
  have ends := tag.cut.ends
  rw [Item.finished, plain] at ends
  obtain ⟨before, after, split, walked⟩ :=
    Item.exists_end_of_walk_none (Option.isNone_iff_eq_none.mp ends)
  have cut := tag.cut.cut []
  rw [List.append_nil] at cut
  have unmarked := plain (':' :: 't' :: tail)
  rw [split] at unmarked
  have here := (Item.cutMarkup_of_walk walked unmarked).2 after
  rw [List.append_assoc, List.singleton_append, ← split, cut] at here
  obtain ⟨whole, rfl⟩ := Prod.mk.inj here
  have long : 3 < before.length := by
    by_contra short
    rcases before with _ | ⟨a, _ | ⟨b, _ | ⟨c, _ | ⟨d, before⟩⟩⟩⟩ <;> simp at split short
  obtain ⟨a, b, c, d, before, rfl⟩ : ∃ a b c d rest, before = a :: b :: c :: d :: rest := by
    rcases before with _ | ⟨a, _ | ⟨b, _ | ⟨c, _ | ⟨d, before⟩⟩⟩⟩ <;> simp at long
    exact ⟨a, b, c, d, before, rfl⟩
  simp only [List.cons_append, List.cons.injEq] at split
  obtain ⟨rfl, rfl, rfl, rfl, rfl⟩ := split
  refine ⟨_, before, rfl, rfl, fun c first => border c ?_, walked⟩
  rw [Option.mem_def] at first
  simp [List.head?_append, first]

/-- A tag that is closed in itself before its end, and whose name ends, starts a text element. -/
theorem TextTag.of_walk {before tail : Text} (start : before = '<' :: 'w' :: ':' :: 't' :: tail)
    (border : ∀ c ∈ tail.head?, endsName c = true)
    (walked : before.foldlM Item.quoteStep none = some none)
    (filled : endsEmpty (before ++ ['>']) = false) : TextTag (before ++ ['>']) := by
  have plain : Item.terminator? (before ++ '>' :: []) = none := by
    simp [start, Item.terminator?]
  obtain ⟨unmarked, cut⟩ := Item.cutMarkup_of_walk walked plain
  have ends : (before ++ ['>']).foldlM Item.quoteStep none = none := by
    rw [List.foldlM_append, walked]
    rfl
  refine ⟨⟨by simp [start], ?_, cut⟩, ofMarkup?_eq_textOpening.mpr ⟨tail ++ ['>'], ?_, ?_, filled⟩⟩
  · rw [Item.finished, unmarked]
    exact Option.isNone_iff_eq_none.mpr ends
  · simp [start]
  · intro c first
    cases tail with
    | nil =>
      cases first
      decide
    | cons d tail => exact border c first

theorem preserveSpace_eq {before : Text} (missing : Text.occurs "xml:space".toList
    (before ++ ['>']) = false) (filled : endsEmpty (before ++ ['>']) = false) :
    preserveSpace (before ++ ['>']) = before ++ preserveAttribute ++ ['>'] := by
  have size : (before ++ ['>']).length - 1 = before.length := by simp
  rw [preserveSpace, if_neg (Bool.eq_false_iff.mp missing)]
  dsimp only
  rw [if_neg (Bool.eq_false_iff.mp filled), size, List.take_left, List.drop_left]

/-- The attribute leaves no quote open and ends in a quotation mark. -/
theorem preserveAttribute_closed :
    preserveAttribute.foldlM Item.quoteStep none = some none ∧
      preserveAttribute.head? = some ' ' ∧ preserveAttribute.getLast? = some '"' := by
  decide +kernel

/-- A tag with the attribute is no empty tag. -/
theorem endsEmpty_preserve (before : Text) :
    endsEmpty (before ++ preserveAttribute ++ ['>']) = false := by
  obtain ⟨inside, quoted⟩ := List.getLast?_eq_some_iff.mp preserveAttribute_closed.2.2
  generalize preserveAttribute = added at quoted
  subst quoted
  rw [endsEmpty, ← Bool.not_eq_true, List.isSuffixOf_iff_suffix]
  rintro ⟨front, same⟩
  have backwards := congrArg List.reverse same
  simp at backwards

/-- A start tag of a text element is still one with the attribute that keeps white space. -/
theorem TextTag.preserve {raw : Text} (tag : TextTag raw) : TextTag (preserveSpace raw) := by
  obtain ⟨before, tail, rfl, start, border, walked⟩ := tag.exists_before
  obtain ⟨_, _, _, filled⟩ := ofMarkup?_eq_textOpening.mp tag.edge
  cases there : Text.occurs "xml:space".toList (before ++ ['>']) with
  | true =>
    rw [preserveSpace, if_pos there]
    exact tag
  | false =>
    rw [preserveSpace_eq there filled]
    obtain ⟨inside, first, _⟩ := preserveAttribute_closed
    have unslashed := endsEmpty_preserve before
    generalize preserveAttribute = added at inside first unslashed ⊢
    have grown : before ++ added = '<' :: 'w' :: ':' :: 't' :: (tail ++ added) := by
      rw [start]
      rfl
    refine TextTag.of_walk grown (fun c met => ?_) ?_ unslashed
    · cases tail with
      | nil =>
        rw [List.nil_append, Option.mem_def, first] at met
        cases met
        decide
      | cons d tail => exact border c met
    · rw [List.foldlM_append]
      exact Option.bind_eq_some_iff.mpr ⟨none, walked, inside⟩

theorem TextTag.scan_eq {raw : Text} (tag : TextTag raw) : scan raw = [textOpening] := by
  simp [scan_of_cut tag.cut, tag.edge]

theorem preserveAttribute_eq :
    preserveAttribute = [' '] ++ "xml:space".toList ++ "=\"preserve\"".toList := by
  decide +kernel

/-- Behind the change, a tag says something of white space. -/
theorem occurs_preserveSpace (raw : Text) :
    Text.occurs "xml:space".toList (preserveSpace raw) = true := by
  unfold preserveSpace
  split
  · next present => exact present
  · dsimp only
    rw [preserveAttribute_eq]
    generalize "xml:space".toList = word
    rw [← List.append_assoc, ← List.append_assoc, List.append_assoc _ _ (List.drop _ raw)]
    exact Text.occurs_append _ _ _

theorem preserveSpace_idem (raw : Text) :
    preserveSpace (preserveSpace raw) = preserveSpace raw := by
  rw [preserveSpace, if_pos (occurs_preserveSpace raw)]

end Edge

end WordMerge
