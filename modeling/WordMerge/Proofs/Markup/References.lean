import WordMerge.Markup.Entity

namespace WordMerge

namespace Entity

/-- Character data in which every ampersand begins a reference: a semicolon follows, with no brace
before it. -/
def Complete (s : Text) : Prop :=
  ∀ after, '&' :: after <:+ s →
    ∃ name rest, after = name ++ ';' :: rest ∧ '\x7b' ∉ name ∧ '\x7d' ∉ name

theorem unescape_go_eq (done s : Text) : unescape.go done s = done.reverse ++ unescape s := by
  have general : ∀ (n : Nat) (s : Text), s.length ≤ n → ∀ done,
      unescape.go done s = done.reverse ++ unescape.go [] s := by
    intro n
    induction n with
    | zero =>
      intro s short done
      have empty : s = [] := List.length_eq_zero_iff.mp (Nat.le_zero.mp short)
      simp [empty, unescape.go]
    | succ n ih =>
      intro s short done
      cases s with
      | nil => simp [unescape.go]
      | cons c rest =>
        rw [List.length_cons] at short
        rw [unescape.go, unescape.go]
        split
        · split
          · next d after found =>
            have shorter := reference?_length found
            rw [ih after (by omega), ih after (by omega) [d]]
            simp
          · rw [ih rest (by omega), ih rest (by omega) ['&']]
            simp
        · rw [ih rest (by omega), ih rest (by omega) [c]]
          simp
  exact general s.length s (Nat.le_refl _) done

@[simp] theorem unescape_nil : unescape [] = [] := by
  simp [unescape, unescape.go]

theorem unescape_cons {c : Char} (other : c ≠ '&') (rest : Text) :
    unescape (c :: rest) = c :: unescape rest := by
  rw [unescape, unescape.go, if_neg other, unescape_go_eq]
  rfl

/-- A reference is read as its character. -/
theorem unescape_reference {rest after : Text} {c : Char}
    (found : reference? rest = some (c, after)) :
    unescape ('&' :: rest) = c :: unescape after := by
  rw [unescape, unescape.go, if_pos rfl]
  split
  · next d later same =>
    rw [found] at same
    cases same
    rw [unescape_go_eq]
    rfl
  · next same =>
    rw [found] at same
    cases same

/-- An ampersand that begins no known reference stays. -/
theorem unescape_ampersand {rest : Text} (unknown : reference? rest = none) :
    unescape ('&' :: rest) = '&' :: unescape rest := by
  rw [unescape, unescape.go, if_pos rfl]
  split
  · next d later same =>
    rw [unknown] at same
    cases same
  · rw [unescape_go_eq]
    rfl

/-- A reference ends at the first semicolon. -/
theorem reference?_append {name : Text} (plain : ';' ∉ name) (rest : Text) :
    reference? (name ++ ';' :: rest) = (resolve? name).map (·, rest) := by
  have kept : ∀ c ∈ name, decide (c ≠ ';') = true := by
    intro c member
    exact decide_eq_true fun same => plain (same ▸ member)
  rw [reference?, List.dropWhile_append_of_pos kept, List.takeWhile_append_of_pos kept]
  simp

theorem Complete.of_suffix {s suffix : Text} (complete : Complete s) (ends : suffix <:+ s) :
    Complete suffix :=
  fun after here => complete after (here.trans ends)

/-- Where references are complete in both parts, they are complete in the whole. -/
theorem Complete.append {a b : Text} (first : Complete a) (second : Complete b) :
    Complete (a ++ b) := by
  rintro after ⟨front, split⟩
  rcases List.append_eq_append_iff.mp split with ⟨middle, rfl, later⟩ | ⟨middle, rfl, later⟩
  · cases middle with
    | nil => exact second after ⟨[], by simpa using later⟩
    | cons c middle =>
      rw [List.cons_append, List.cons.injEq] at later
      obtain ⟨rfl, rfl⟩ := later
      obtain ⟨name, rest, rfl, opening, closing⟩ := first middle ⟨front, rfl⟩
      exact ⟨name, rest ++ b, by simp, opening, closing⟩
  · exact second after ⟨middle, later.symm⟩

theorem complete_of_plain {s : Text} (plain : '&' ∉ s) : Complete s :=
  fun _ ends => absurd (ends.subset List.mem_cons_self) plain

theorem complete_nil : Complete [] :=
  complete_of_plain (by simp)

/-- Behind the ampersand of complete character data the first semicolon ends the name. -/
theorem Complete.exists_name {after : Text} (complete : Complete ('&' :: after)) :
    ∃ name rest, after = name ++ ';' :: rest ∧ ';' ∉ name := by
  obtain ⟨name, rest, rfl, _⟩ := complete after List.suffix_rfl
  have ends : ';' ∈ name ++ ';' :: rest := by simp
  exact List.eq_append_cons_of_mem ends

/-- Complete character data stands for the same text whatever follows it. -/
theorem unescape_append {a : Text} (complete : Complete a) (b : Text) :
    unescape (a ++ b) = unescape a ++ unescape b := by
  induction length : a.length using Nat.strongRecOn generalizing a with
  | ind n ih =>
    cases a with
    | nil => simp
    | cons c rest =>
      rw [List.length_cons] at length
      have later : Complete rest := complete.of_suffix (List.suffix_cons c rest)
      by_cases ampersand : c = '&'
      · subst ampersand
        obtain ⟨name, after, rfl, plain⟩ := complete.exists_name
        have alone := reference?_append plain after
        have together := reference?_append plain (after ++ b)
        rw [← List.cons_append, ← List.append_assoc] at together
        cases resolved : resolve? name with
        | some d =>
          rw [resolved] at alone together
          have shorter := reference?_length alone
          have rest : Complete after :=
            later.of_suffix ((List.suffix_cons ';' after).trans (List.suffix_append _ _))
          rw [List.cons_append, unescape_reference together, unescape_reference alone,
            ih after.length (by omega) rest rfl, List.cons_append]
        | none =>
          rw [resolved] at alone together
          rw [List.cons_append, unescape_ampersand together, unescape_ampersand alone,
            ih _ (by omega) later rfl, List.cons_append]
      · rw [List.cons_append, unescape_cons ampersand, unescape_cons ampersand,
          ih _ (by omega) later rfl, List.cons_append]

/-- A character as character data is read back in front of any text. -/
theorem unescape_escapeChar_append (c : Char) (rest : Text) :
    unescape (escapeChar c ++ rest) = c :: unescape rest := by
  have named (name : Text) {d : Char} (plain : ';' ∉ name) (known : resolve? name = some d) :
      unescape ('&' :: (name ++ ';' :: rest)) = d :: unescape rest :=
    unescape_reference (by rw [reference?_append plain, known]; rfl)
  unfold escapeChar
  split
  · next same =>
    subst same
    exact named ['a', 'm', 'p'] (by decide) rfl
  · next other =>
    split
    · next same =>
      subst same
      exact named ['l', 't'] (by decide) rfl
    · split
      · next same =>
        subst same
        exact named ['g', 't'] (by decide) rfl
      · exact unescape_cons other rest

theorem unescape_escape (s : Text) : unescape (escape s) = s := by
  induction s with
  | nil => exact unescape_nil
  | cons c rest ih =>
    rw [escape, List.flatMap_cons, unescape_escapeChar_append]
    exact congrArg _ ih

theorem complete_escapeChar (c : Char) : Complete (escapeChar c) := by
  have named (name : Text) (plain : '&' ∉ name) (opening : '\x7b' ∉ name)
      (closing : '\x7d' ∉ name) : Complete ('&' :: (name ++ [';'])) := by
    intro after ends
    rcases List.suffix_cons_iff.mp ends with same | later
    · cases same
      exact ⟨name, [], rfl, opening, closing⟩
    · have member := later.subset List.mem_cons_self
      simp [plain] at member
  unfold escapeChar
  split
  · exact named ['a', 'm', 'p'] (by decide) (by decide) (by decide)
  · next other =>
    split
    · exact named ['l', 't'] (by decide) (by decide) (by decide)
    · split
      · exact named ['g', 't'] (by decide) (by decide) (by decide)
      · exact complete_of_plain fun member => other (List.mem_singleton.mp member).symm

theorem complete_escape (s : Text) : Complete (escape s) := by
  induction s with
  | nil => exact complete_nil
  | cons c rest ih =>
    rw [escape, List.flatMap_cons]
    exact (complete_escapeChar c).append ih

/-- The signs around markup are written as references. -/
theorem not_mem_escape_of_angle {sign : Char} (angle : sign = '<' ∨ sign = '>') (s : Text) :
    sign ∉ escape s := by
  intro member
  obtain ⟨c, -, inside⟩ := List.mem_flatMap.mp member
  unfold escapeChar at inside
  split at inside
  · rcases angle with rfl | rfl <;> simp at inside
  · split at inside
    · rcases angle with rfl | rfl <;> simp at inside
    · split at inside
      · rcases angle with rfl | rfl <;> simp at inside
      · next less greater =>
        have same := List.mem_singleton.mp inside
        exact angle.elim (less ∘ same.symm.trans) (greater ∘ same.symm.trans)

/-- A reference does not reach over a brace. -/
theorem Complete.of_append_brace {a b : Text} {brace : Char}
    (braces : brace = '\x7b' ∨ brace = '\x7d') (complete : Complete (a ++ brace :: b)) :
    Complete a := by
  rintro after ⟨front, rfl⟩
  obtain ⟨name, rest, split, opening, closing⟩ :=
    complete (after ++ brace :: b) ⟨front, by simp⟩
  rcases List.append_eq_append_iff.mp split with ⟨middle, rfl, later⟩ | ⟨middle, rfl, later⟩
  · cases middle with
    | nil => rcases braces with rfl | rfl <;> cases later
    | cons c middle =>
      cases later
      rcases braces with rfl | rfl <;> simp at opening closing
  · cases middle with
    | nil => rcases braces with rfl | rfl <;> cases later
    | cons c middle =>
      cases later
      exact ⟨name, middle, rfl, opening, closing⟩

/-- A text as character data has no angle bracket, and it is read back whatever follows it: what follows
is read as it is by itself. -/
theorem unescape_escape_append (s : Text) :
    '<' ∉ escape s ∧ '>' ∉ escape s ∧ unescape (escape s) = s ∧
      ∀ t, unescape (escape s ++ t) = s ++ unescape t := by
  refine ⟨not_mem_escape_of_angle (.inl rfl) s, not_mem_escape_of_angle (.inr rfl) s,
    unescape_escape s, fun t => ?_⟩
  rw [unescape_append (complete_escape s), unescape_escape]

example : unescape (escape "&l".toList ++ "t;".toList) = "&lt;".toList := by cbv

end Entity

end WordMerge
