import WordMerge.Markup.Item

namespace WordMerge

namespace Text

theorem isPrefixOf?_append (mark rest : Text) : mark.isPrefixOf? (mark ++ rest) = some rest := by
  induction mark with
  | nil => cases rest <;> rfl
  | cons c mark ih =>
    change (if c == c then mark.isPrefixOf? (mark ++ rest) else none) = some rest
    rw [if_pos (beq_self_eq_true c), ih]

theorem isPrefixOf?_eq_none {mark s : Text} (missing : ¬ mark <+: s) :
    mark.isPrefixOf? s = none := by
  cases found : mark.isPrefixOf? s with
  | none => rfl
  | some after => exact absurd ⟨after, append_eq_of_isPrefixOf? found⟩ missing

theorem cutThrough_go_eq (mark passed s : Text) :
    cutThrough.go mark passed s =
      (passed.reverse ++ (cutThrough mark s).1, (cutThrough mark s).2) := by
  unfold cutThrough
  induction s generalizing passed with
  | nil => simp [cutThrough.go]
  | cons c rest ih =>
    rw [cutThrough.go, cutThrough.go]
    split
    · simp
    · rw [ih (c :: passed), ih [c]]
      simp

/-- A text without the mark is taken whole. -/
theorem cutThrough_of_not_occurs {mark s : Text} (missing : occurs mark s = false) :
    cutThrough mark s = (s, []) := by
  induction s with
  | nil => rfl
  | cons c rest ih =>
    simp only [occurs, Bool.or_eq_false_iff] at missing
    have noPrefix : ¬ mark <+: c :: rest := by
      rw [← List.isPrefixOf_iff_prefix, missing.1]
      simp
    rw [cutThrough, cutThrough.go, isPrefixOf?_eq_none noPrefix, cutThrough_go_eq, ih missing.2]
    rfl

/-- A text with the mark is cut behind the first one, and so is every text that starts alike. -/
theorem exists_cut_of_occurs {mark s : Text} (filled : mark ≠ []) (found : occurs mark s = true) :
    ∃ before rest, s = before ++ mark ++ rest ∧
      ∀ after, cutThrough mark (before ++ mark ++ after) = (before ++ mark, after) := by
  induction s with
  | nil => simp_all [occurs]
  | cons c s ih =>
    by_cases here : mark <+: c :: s
    · obtain ⟨rest, same⟩ := here
      refine ⟨[], rest, same.symm, fun after => ?_⟩
      obtain ⟨first, tail, rfl⟩ := List.exists_cons_of_ne_nil filled
      have cut := isPrefixOf?_append (first :: tail) after
      rw [List.cons_append] at cut
      rw [List.nil_append, List.cons_append, cutThrough, cutThrough.go, cut]
      simp
    · have later : occurs mark s = true := by
        have noPrefix : mark.isPrefixOf (c :: s) = false := by
          rw [← Bool.not_eq_true, List.isPrefixOf_iff_prefix]
          exact here
        simpa [occurs, noPrefix] using found
      obtain ⟨before, rest, rfl, cut⟩ := ih later
      refine ⟨c :: before, rest, rfl, fun after => ?_⟩
      -- a mark at the front would lie within what stands before the first mark and the mark
      have noPrefix : ¬ mark <+: c :: (before ++ mark ++ after) := by
        intro front
        have within : mark <+: c :: (before ++ mark) := by
          refine List.prefix_of_prefix_length_le front ⟨after, by simp⟩ ?_
          simp only [List.length_cons, List.length_append]
          omega
        exact here (within.trans ⟨rest, by simp⟩)
      rw [List.cons_append, List.cons_append, cutThrough, cutThrough.go,
        isPrefixOf?_eq_none noPrefix, cutThrough_go_eq, cut after]
      simp

/-- A mark is found where it stands. -/
theorem occurs_append (before mark after : Text) :
    occurs mark (before ++ mark ++ after) = true := by
  induction before with
  | nil =>
    have front : mark <+: mark ++ after := ⟨after, rfl⟩
    rw [List.nil_append]
    cases whole : mark ++ after with
    | nil => simp_all [occurs]
    | cons c rest =>
      rw [whole] at front
      simp [occurs, List.isPrefixOf_iff_prefix.mpr front]
  | cons c before ih => simp_all [occurs]

end Text

namespace Item

/-- Passes a character of a tag inside the open quote, if there is one. A greater-than sign outside
quotes ends the tag. -/
def quoteStep (quote : Option Char) (c : Char) : Option (Option Char) :=
  match quote with
  | some q => some (if c = q then none else some q)
  | none => if c = '>' then none else some (if c = '"' ∨ c = '\'' then some c else none)

/-- Whether some markup has its end: the mark that ends it occurs in it, or, where a tag has none,
a greater-than sign stands outside its quotes. -/
def finished (raw : Text) : Bool :=
  match terminator? raw with
  | some mark => Text.occurs mark raw
  | none => (raw.foldlM quoteStep none).isNone

/-- A tag that does not end is taken whole. -/
theorem cutTag_go_of_some {quote left : Option Char} {s : Text} (passed : Text)
    (walk : s.foldlM quoteStep quote = some left) :
    cutTag.go quote passed s = (passed.reverse ++ s, []) := by
  induction s generalizing quote passed with
  | nil => simp [cutTag.go]
  | cons c rest ih =>
    obtain ⟨next, step, walk⟩ := Option.bind_eq_some_iff.mp walk
    cases quote with
    | some q =>
      cases step
      rw [cutTag.go, ih _ walk]
      simp
    | none =>
      simp only [quoteStep] at step
      split at step
      · cases step
      · next other =>
        cases step
        rw [cutTag.go, if_neg other, ih _ walk]
        simp

/-- A tag ends at the first greater-than sign outside quotes. -/
theorem cutTag_go_of_none {quote : Option Char} {before : Text} (passed after : Text)
    (walk : before.foldlM quoteStep quote = some none) :
    cutTag.go quote passed (before ++ '>' :: after) =
      (passed.reverse ++ before ++ ['>'], after) := by
  induction before generalizing quote passed with
  | nil =>
    cases walk
    simp [cutTag.go]
  | cons c before ih =>
    obtain ⟨next, step, walk⟩ := Option.bind_eq_some_iff.mp walk
    rw [List.cons_append]
    cases quote with
    | some q =>
      cases step
      rw [cutTag.go, ih _ walk]
      simp
    | none =>
      simp only [quoteStep] at step
      split at step
      · cases step
      · next other =>
        cases step
        rw [cutTag.go, if_neg other, ih _ walk]
        simp

/-- The walk through a tag breaks off at the first greater-than sign outside quotes. -/
theorem exists_end_of_walk_none {quote : Option Char} {s : Text}
    (walk : s.foldlM quoteStep quote = none) :
    ∃ before after, s = before ++ '>' :: after ∧ before.foldlM quoteStep quote = some none := by
  induction s generalizing quote with
  | nil => cases walk
  | cons c rest ih =>
    rw [List.foldlM_cons] at walk
    cases step : quoteStep quote c with
    | none =>
      have ends : quote = none ∧ c = '>' := by
        unfold quoteStep at step
        split at step
        · cases step
        · split at step
          · next same => exact ⟨rfl, same⟩
          · cases step
      obtain ⟨rfl, rfl⟩ := ends
      exact ⟨[], rest, rfl, rfl⟩
    | some next =>
      rw [step] at walk
      obtain ⟨before, after, rfl, inside⟩ := ih walk
      exact ⟨c :: before, after, rfl, by simp [List.foldlM_cons, step, inside]⟩

/-- The openers of the markup that ends at a mark of its own, each with its mark. -/
def marks : List (Text × Text) :=
  [(['<', '!', '-', '-'], ['-', '-', '>']),
    (['<', '!', '[', 'C', 'D', 'A', 'T', 'A', '['], [']', ']', '>']),
    (['<', '?'], ['?', '>'])]

theorem terminator?_of_opener {opener mark : Text} (listed : (opener, mark) ∈ marks)
    (after : Text) : terminator? (opener ++ after) = some mark := by
  simp only [marks, List.mem_cons, Prod.mk.injEq, List.not_mem_nil, or_false] at listed
  rcases listed with ⟨rfl, rfl⟩ | ⟨rfl, rfl⟩ | ⟨rfl, rfl⟩ <;> simp [terminator?]

/-- Only markup with one of the openers ends with such a mark. -/
theorem exists_opener_of_terminator? {s mark : Text} (found : terminator? s = some mark) :
    ∃ opener, (opener, mark) ∈ marks ∧ opener <+: s := by
  unfold terminator? at found
  split at found
  · next opened =>
    cases found
    exact ⟨_, by simp [marks], List.isPrefixOf_iff_prefix.mp opened⟩
  split at found
  · next opened =>
    cases found
    exact ⟨_, by simp [marks], List.isPrefixOf_iff_prefix.mp opened⟩
  split at found
  · next opened =>
    cases found
    exact ⟨_, by simp [marks], List.isPrefixOf_iff_prefix.mp opened⟩
  · cases found

theorem not_mem_of_opener {opener mark : Text} (listed : (opener, mark) ∈ marks) :
    '>' ∉ opener := by
  simp only [marks, List.mem_cons, Prod.mk.injEq, List.not_mem_nil, or_false] at listed
  rcases listed with ⟨rfl, rfl⟩ | ⟨rfl, rfl⟩ | ⟨rfl, rfl⟩ <;> decide

/-- The first mark behind an opener may overlap it, but what it ends holds the opener. -/
theorem opener_prefix_of_mark {opener mark before rest s : Text} (listed : (opener, mark) ∈ marks)
    (opened : opener <+: s) (split : s = before ++ mark ++ rest) : opener <+: before ++ mark := by
  refine List.prefix_of_prefix_length_le opened ⟨rest, split.symm⟩ ?_
  obtain ⟨tail, rfl⟩ := opened
  simp only [marks, List.mem_cons, Prod.mk.injEq, List.not_mem_nil, or_false] at listed
  rcases listed with ⟨rfl, rfl⟩ | ⟨rfl, rfl⟩ | ⟨rfl, rfl⟩
  · rcases before with _ | ⟨_, before⟩ <;> simp at split ⊢
  · rcases before with _ | ⟨_, _ | ⟨_, _ | ⟨_, _ | ⟨_, _ | ⟨_, _ | ⟨_, before⟩⟩⟩⟩⟩⟩ <;>
      simp at split ⊢
  · simp

/-- Markup without its end is taken whole. -/
theorem cutMarkup_of_not_finished {s : Text} (unfinished : finished s = false) :
    cutMarkup s = (s, []) := by
  unfold finished at unfinished
  unfold cutMarkup
  cases found : terminator? s with
  | some mark =>
    rw [found] at unfinished
    exact Text.cutThrough_of_not_occurs unfinished
  | none =>
    rw [found] at unfinished
    obtain ⟨left, walk⟩ : ∃ left, s.foldlM quoteStep none = some left :=
      Option.isSome_iff_exists.mp (by simpa using unfinished)
    exact cutTag_go_of_some [] walk

/-- A tag is cut off behind its end, whatever follows. -/
theorem cutMarkup_of_walk {before rest : Text} (walk : before.foldlM quoteStep none = some none)
    (plain : terminator? (before ++ '>' :: rest) = none) :
    terminator? (before ++ ['>']) = none ∧
      ∀ after, cutMarkup (before ++ ['>'] ++ after) = (before ++ ['>'], after) := by
  have unmarked (after : Text) : terminator? (before ++ '>' :: after) = none := by
    cases found : terminator? (before ++ '>' :: after) with
    | none => rfl
    | some mark =>
      obtain ⟨opener, listed, opened⟩ := exists_opener_of_terminator? found
      have cut : before ++ ['>'] <+: before ++ '>' :: after := ⟨after, by simp⟩
      -- no opener holds the end of a tag, so the opener stands before it
      rcases List.prefix_or_prefix_of_prefix opened cut with short | long
      · have within : before ++ ['>'] <+: before ++ '>' :: rest := ⟨rest, by simp⟩
        obtain ⟨tail, same⟩ := short.trans within
        rw [← same, terminator?_of_opener listed] at plain
        cases plain
      · exact absurd (long.subset (by simp)) (not_mem_of_opener listed)
  refine ⟨unmarked [], fun after => ?_⟩
  rw [List.append_assoc, List.singleton_append, cutMarkup, unmarked after]
  exact cutTag_go_of_none [] after walk

/-- Markup with an end is cut off there, whatever follows. -/
theorem exists_cut_of_finished {s : Text} (ends : finished s = true) :
    ∃ raw rest, s = raw ++ rest ∧ finished raw = true ∧
      ∀ after, cutMarkup (raw ++ after) = (raw, after) := by
  unfold finished at ends
  split at ends
  · next mark found =>
    obtain ⟨opener, listed, opened⟩ := exists_opener_of_terminator? found
    obtain ⟨before, rest, split, cut⟩ :=
      Text.exists_cut_of_occurs (terminator?_ne_nil found) ends
    obtain ⟨tail, whole⟩ := opener_prefix_of_mark listed opened split
    have marked (after : Text) : terminator? (before ++ mark ++ after) = some mark := by
      rw [← whole, List.append_assoc]
      exact terminator?_of_opener listed _
    refine ⟨before ++ mark, rest, split, ?_, fun after => ?_⟩
    · have here := marked []
      rw [List.append_nil] at here
      have occurs := Text.occurs_append before mark []
      rw [List.append_nil] at occurs
      simp [finished, here, occurs]
    · rw [cutMarkup, marked after]
      exact cut after
  · next plain =>
    obtain ⟨before, rest, rfl, walk⟩ := exists_end_of_walk_none (by simpa using ends)
    obtain ⟨unmarked, cut⟩ := cutMarkup_of_walk walk plain
    exact ⟨before ++ ['>'], rest, by simp, by simp [finished, unmarked, walk, quoteStep], cut⟩

end Item

end WordMerge
