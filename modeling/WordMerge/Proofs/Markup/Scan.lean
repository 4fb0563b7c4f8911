import WordMerge.Proofs.Markup.Cut

namespace WordMerge

namespace Item

/-- Markup with its end, which is cut off in the same way whatever follows it. -/
structure Cut (raw : Text) : Prop where
  opened : raw.head? = some '<'
  ends : finished raw = true
  cut : ∀ after, cutMarkup (raw ++ after) = (raw, after)

/-- Markup that has its end is cut off there. -/
theorem Cut.of_finished {s : Text} (opened : s.head? = some '<') (ends : finished s = true) :
    ∃ raw rest, s = raw ++ rest ∧ Cut raw := by
  obtain ⟨raw, rest, rfl, rawEnds, cut⟩ := exists_cut_of_finished ends
  refine ⟨raw, rest, rfl, ?_, rawEnds, cut⟩
  cases raw with
  | nil => simp [finished, terminator?] at rawEnds
  | cons c raw => simpa using opened

theorem scan_go_eq (done : List Item) (s : Text) : scan.go done s = done.reverse ++ scan s := by
  have general : ∀ (n : Nat) (s : Text), s.length ≤ n → ∀ done,
      scan.go done s = done.reverse ++ scan.go [] s := by
    intro n
    induction n with
    | zero =>
      intro s short done
      cases List.length_eq_zero_iff.mp (Nat.le_zero.mp short)
      simp [scan.go]
    | succ n ih =>
      intro s short done
      cases s with
      | nil => simp [scan.go]
      | cons c rest =>
        have cut := cutMarkup_length (c :: rest)
        have dropped := (List.dropWhile_suffix (l := rest) (· ≠ '<')).length_le
        simp only [List.length_cons] at short cut
        rw [scan.go, scan.go]
        split
        · rw [ih _ (by omega), ih _ (by omega) [_]]
          simp
        · rw [ih _ (by omega), ih _ (by omega) [_]]
          simp
  exact general s.length s (Nat.le_refl _) done

@[simp] theorem scan_nil : scan [] = [] := by
  simp [scan, scan.go]

/-- Markup in front is the first item, whatever follows it. -/
theorem scan_cut {raw : Text} (cut : Cut raw) (after : Text) :
    scan (raw ++ after) = .markup raw :: scan after := by
  obtain ⟨opened, _, cut⟩ := cut
  cases raw with
  | nil => cases opened
  | cons c raw =>
    cases opened
    have here := cut after
    rw [List.cons_append] at here ⊢
    rw [scan, scan.go, if_pos rfl, here, scan_go_eq]
    rfl

/-- Markup without its end is the only item. -/
theorem scan_of_not_finished {s : Text} (opened : s.head? = some '<')
    (unfinished : finished s = false) : scan s = [.markup s] := by
  have cut := cutMarkup_of_not_finished unfinished
  cases s with
  | nil => cases opened
  | cons c s =>
    cases opened
    rw [scan, scan.go, if_pos rfl, cut, scan_go_eq, scan_nil]
    rfl

/-- Character data up to the next markup is the first item. -/
theorem scan_text {raw after : Text} (filled : raw ≠ []) (plain : '<' ∉ raw)
    (border : ∀ c ∈ after.head?, c = '<') :
    scan (raw ++ after) = .text raw :: scan after := by
  cases raw with
  | nil => exact absurd rfl filled
  | cons c raw =>
    have first : c ≠ '<' := fun same => plain (by simp [same])
    have inside : ∀ d ∈ raw, decide (d ≠ '<') = true := by
      intro d member
      have different : d ≠ '<' := fun same => plain (List.mem_cons_of_mem _ (same ▸ member))
      simpa using different
    have taken : (raw ++ after).takeWhile (· ≠ '<') = raw := by
      rw [List.takeWhile_append_of_pos inside]
      cases after with
      | nil => simp
      | cons d after => simp [border d rfl]
    have left : (raw ++ after).dropWhile (· ≠ '<') = after := by
      rw [List.dropWhile_append_of_pos inside]
      cases after with
      | nil => rfl
      | cons d after => simp [border d rfl]
    rw [List.cons_append, scan, scan.go, if_neg first, taken, left, scan_go_eq]
    rfl

/-- Induction over the items of a part: markup with its end, character data up to the next markup,
and at last, maybe, markup without an end. -/
@[elab_as_elim]
theorem part_induction {motive : Text → Prop} (nil : motive [])
    (unfinished : ∀ s, s.head? = some '<' → finished s = false → motive s)
    (markup : ∀ raw after, Cut raw → motive after → motive (raw ++ after))
    (text : ∀ raw after, raw ≠ [] → '<' ∉ raw → (∀ c ∈ after.head?, c = '<') → motive after →
      motive (raw ++ after)) (s : Text) : motive s := by
  induction length : s.length using Nat.strongRecOn generalizing s with
  | ind n ih =>
    cases s with
    | nil => exact nil
    | cons c rest =>
      by_cases opened : c = '<'
      · subst opened
        cases ends : finished ('<' :: rest) with
        | false => exact unfinished _ rfl ends
        | true =>
          obtain ⟨raw, after, split, cut⟩ := Cut.of_finished rfl ends
          have size := congrArg List.length split
          have filled : 0 < raw.length := by
            cases raw with
            | nil => cases cut.opened
            | cons => simp
          rw [List.length_append] at size
          rw [split]
          exact markup raw after cut (ih after.length (by omega) after rfl)
      · have split := List.takeWhile_append_dropWhile (p := fun d => decide (d ≠ '<')) (l := rest)
        have short := (List.dropWhile_suffix (l := rest) (· ≠ '<')).length_le
        rw [← split, ← List.cons_append]
        refine text _ _ (by simp) ?_ ?_ (ih _ (by simp at length; omega) _ rfl)
        · rw [List.mem_cons, not_or]
          refine ⟨fun same => opened same.symm, fun member => ?_⟩
          have passed := List.all_eq_true.mp List.all_takeWhile '<' member
          simp at passed
        · intro d first
          have stopped := List.head?_dropWhile_not (fun d => decide (d ≠ '<')) rest
          rw [Option.mem_def] at first
          rw [first] at stopped
          simpa using stopped

/-- Puts an item in front of others. Character data joins with character data. -/
def glue : Item → List Item → List Item
  | .text raw, .text more :: rest => .text (raw ++ more) :: rest
  | item, rest => item :: rest

/-- Puts items in front of others. Character data on both sides of the border is one item. -/
def join : List Item → List Item → List Item
  | [], b => b
  | [last], b => glue last b
  | item :: next :: a, b => item :: join (next :: a) b

theorem join_markup (raw : Text) (a b : List Item) :
    join (.markup raw :: a) b = .markup raw :: join a b := by
  cases a <;> rfl

theorem join_cons {a : List Item} (item : Item) (filled : a ≠ []) (b : List Item) :
    join (item :: a) b = item :: join a b := by
  cases a with
  | nil => exact absurd rfl filled
  | cons => rfl

theorem scan_ne_nil {s : Text} (filled : s ≠ []) : scan s ≠ [] := by
  intro none
  have spelled := spell_scan s
  rw [none] at spelled
  exact filled spelled.symm

/-- What starts with markup, or is empty, does not join with character data before it. -/
theorem glue_scan {s : Text} (border : ∀ c ∈ s.head?, c = '<') (item : Item) :
    glue item (scan s) = item :: scan s := by
  induction s using part_induction with
  | nil => cases item <;> simp [glue]
  | unfinished s opened ends =>
    rw [scan_of_not_finished opened ends]
    cases item <;> rfl
  | markup raw after cut ih =>
    rw [scan_cut cut]
    cases item <;> rfl
  | text raw after filled plain _ _ =>
    obtain ⟨c, raw, rfl⟩ := List.exists_cons_of_ne_nil filled
    exact absurd (by simp [border c rfl]) plain

end Item

namespace Text

/-- Whether all markup of a part has its end. -/
def Whole (s : Text) : Prop :=
  ∀ raw, Item.markup raw ∈ Item.scan s → Item.finished raw = true

end Text

namespace Item

/-- Character data joins with that at the front of what follows it, if there is some. -/
theorem scan_plain_append {raw : Text} (filled : raw ≠ []) (plain : '<' ∉ raw) (b : Text) :
    scan (raw ++ b) = glue (.text raw) (scan b) := by
  induction b using part_induction with
  | nil => simpa [glue] using scan_text filled plain (by simp : ∀ c ∈ [].head?, c = '<')
  | unfinished b opened ends =>
    have start : ∀ c ∈ b.head?, c = '<' := by simp [opened]
    rw [scan_text filled plain start, glue_scan start]
  | markup raw' after cut _ =>
    have start : ∀ c ∈ (raw' ++ after).head?, c = '<' := by
      intro c first
      simpa [List.head?_append, cut.opened] using first.symm
    rw [scan_text filled plain start, glue_scan start]
  | text raw' after filled' plain' border _ =>
    have joined : '<' ∉ raw ++ raw' := by simp [plain, plain']
    rw [← List.append_assoc, scan_text (by simp [filled]) joined border,
      scan_text filled' plain' border]
    rfl

/-- What follows a part whose markup has its ends is scanned as if it stood alone. -/
theorem scan_append {a : Text} (whole : Text.Whole a) (b : Text) :
    scan (a ++ b) = join (scan a) (scan b) := by
  induction a using part_induction with
  | nil => simp [join]
  | unfinished a opened ends =>
    have single := scan_of_not_finished opened ends
    have contradiction := whole a (by simp [single])
    simp [ends] at contradiction
  | markup raw after cut ih =>
    have later : Text.Whole after := fun raw' member =>
      whole raw' (by rw [scan_cut cut]; exact List.mem_cons_of_mem _ member)
    rw [List.append_assoc, scan_cut cut, scan_cut cut, join_markup, ih later]
  | text raw after filled plain border ih =>
    have scanned := scan_text filled plain border
    have later : Text.Whole after := fun raw' member =>
      whole raw' (by rw [scanned]; exact List.mem_cons_of_mem _ member)
    rw [List.append_assoc, scanned]
    by_cases last : after = []
    · subst last
      rw [List.nil_append, scan_nil]
      exact scan_plain_append filled plain b
    · have start : ∀ c ∈ (after ++ b).head?, c = '<' := by
        obtain ⟨d, after, rfl⟩ := List.exists_cons_of_ne_nil last
        simpa using border
      rw [scan_text filled plain start, ih later, join_cons _ (scan_ne_nil last)]

/-- Where markup begins, or nothing follows, no character data is joined. -/
theorem scan_append_of_border {a b : Text} (whole : Text.Whole a)
    (border : ∀ c ∈ b.head?, c = '<') : scan (a ++ b) = scan a ++ scan b := by
  have general (items : List Item) : join items (scan b) = items ++ scan b := by
    induction items with
    | nil => rfl
    | cons item items ih =>
      cases items with
      | nil => exact glue_scan border item
      | cons next items =>
        rw [join_cons item (by simp), ih]
        rfl
  rw [scan_append whole, general]

/-- The markup that an item is. -/
def markup? : Item → Option Text
  | .markup raw => some raw
  | .text _ => none

/-- The markup of a part in order. -/
def markups (s : Text) : List Text :=
  (scan s).filterMap markup?

theorem mem_markups {s raw : Text} : raw ∈ markups s ↔ .markup raw ∈ scan s := by
  simp only [markups, List.mem_filterMap]
  constructor
  · rintro ⟨item, member, same⟩
    cases item with
    | markup found =>
      cases same
      exact member
    | text _ => cases same
  · intro member
    exact ⟨_, member, rfl⟩

theorem filterMap_markup_join (a b : List Item) :
    (join a b).filterMap markup? = a.filterMap markup? ++ b.filterMap markup? := by
  induction a with
  | nil => rfl
  | cons item a ih =>
    cases a with
    | nil =>
      cases item with
      | markup raw => rfl
      | text raw => rcases b with _ | ⟨_ | _, b⟩ <;> rfl
    | cons next a =>
      rw [join_cons item (by simp), List.filterMap_cons, ih]
      cases item <;> rfl

/-- The markup of a whole text and of what follows it comes one after the other. -/
theorem markups_append {a : Text} (whole : Text.Whole a) (b : Text) :
    markups (a ++ b) = markups a ++ markups b := by
  rw [markups, scan_append whole, filterMap_markup_join]
  rfl

theorem markups_of_plain {s : Text} (plain : '<' ∉ s) : markups s = [] := by
  by_cases empty : s = []
  · subst empty
    simp [markups]
  · have scanned := scan_text empty plain (by simp : ∀ c ∈ [].head?, c = '<')
    rw [List.append_nil, scan_nil] at scanned
    simp [markups, scanned, markup?]

theorem Cut.scan_eq {raw : Text} (cut : Cut raw) : scan raw = [.markup raw] := by
  simpa using scan_cut cut []

theorem Cut.markups_eq {raw : Text} (cut : Cut raw) : markups raw = [raw] := by
  simp [markups, cut.scan_eq, markup?]

end Item

namespace Text

theorem whole_iff {s : Text} : Whole s ↔ ∀ raw ∈ Item.markups s, Item.finished raw = true := by
  simp [Whole, Item.mem_markups]

theorem Whole.append {a b : Text} (first : Whole a) (second : Whole b) : Whole (a ++ b) := by
  rw [whole_iff] at *
  rw [Item.markups_append (whole_iff.mpr first)]
  simpa [or_imp, forall_and] using ⟨first, second⟩

theorem whole_of_plain {s : Text} (plain : '<' ∉ s) : Whole s := by
  simp [whole_iff, Item.markups_of_plain plain]

end Text

namespace Item

theorem Cut.whole {raw : Text} (cut : Cut raw) : Text.Whole raw := by
  simp [Text.whole_iff, cut.markups_eq, cut.ends]

theorem markups_flatten {pieces : List Text} (whole : ∀ piece ∈ pieces, Text.Whole piece) :
    markups pieces.flatten = pieces.flatMap markups := by
  induction pieces with
  | nil => simp [markups]
  | cons piece rest ih =>
    rw [List.forall_mem_cons] at whole
    rw [List.flatten_cons, markups_append whole.1, ih whole.2, List.flatMap_cons]

theorem whole_flatten {pieces : List Text} (whole : ∀ piece ∈ pieces, Text.Whole piece) :
    Text.Whole pieces.flatten := by
  rw [Text.whole_iff, markups_flatten whole]
  intro raw member
  obtain ⟨piece, inside, member⟩ := List.mem_flatMap.mp member
  exact Text.whole_iff.mp (whole piece inside) raw member

/-- What the items of a part look like: markup starts with a less-than sign, and if it has its end it
is cut off in the same way whatever follows it; character data is never empty and has no such sign. -/
theorem mem_scan_cases {s : Text} {item : Item} (found : item ∈ scan s) :
    (∃ raw, item = .markup raw ∧ raw.head? = some '<' ∧ (finished raw = true → Cut raw)) ∨
      ∃ raw, item = .text raw ∧ raw ≠ [] ∧ '<' ∉ raw := by
  induction s using part_induction with
  | nil => simp at found
  | unfinished s opened unfinished =>
    rw [scan_of_not_finished opened unfinished, List.mem_singleton] at found
    exact .inl ⟨s, found, opened, fun ends => by simp [unfinished] at ends⟩
  | markup first after cut ih =>
    rw [scan_cut cut, List.mem_cons] at found
    rcases found with same | later
    · exact .inl ⟨first, same, cut.opened, fun _ => cut⟩
    · exact ih later
  | text first after filled plain border ih =>
    rw [scan_text filled plain border, List.mem_cons] at found
    rcases found with same | later
    · exact .inr ⟨first, same, filled, plain⟩
    · exact ih later

theorem head?_of_mem_scan {s raw : Text} (found : .markup raw ∈ scan s) :
    raw.head? = some '<' := by
  rcases mem_scan_cases found with ⟨other, same, opened, _⟩ | ⟨other, same, _⟩
  · cases same
    exact opened
  · cases same

/-- Markup that has its end can be cut off in the same way anywhere else. -/
theorem cut_of_mem_scan {s raw : Text} (found : .markup raw ∈ scan s)
    (ends : finished raw = true) : Cut raw := by
  rcases mem_scan_cases found with ⟨other, same, _, cut⟩ | ⟨other, same, _⟩
  · cases same
    exact cut ends
  · cases same

theorem cut_of_scan {raw : Text} (scanned : scan raw = [.markup raw]) (ends : finished raw = true) :
    Cut raw :=
  cut_of_mem_scan (scanned ▸ List.mem_singleton_self _) ends

theorem plain_of_mem_scan {s raw : Text} (found : .text raw ∈ scan s) :
    raw ≠ [] ∧ '<' ∉ raw := by
  rcases mem_scan_cases found with ⟨other, same, _⟩ | ⟨other, same, plain⟩
  · cases same
  · cases same
    exact plain

/-- Only the last item of a part may be markup without its end. -/
theorem cut_of_mem_dropLast_scan {s raw : Text} (found : .markup raw ∈ (scan s).dropLast) :
    Cut raw := by
  have later {first : Item} {items : List Item} (found : .markup raw ∈ (first :: items).dropLast) :
      .markup raw = first ∨ .markup raw ∈ items.dropLast := by
    cases items with
    | nil => cases found
    | cons next rest => exact List.mem_cons.mp found
  induction s using part_induction with
  | nil => simp at found
  | unfinished s opened unfinished =>
    rw [scan_of_not_finished opened unfinished] at found
    cases found
  | markup first after cut ih =>
    rw [scan_cut cut] at found
    rcases later found with same | found
    · cases same
      exact cut
    · exact ih found
  | text first after filled plain border ih =>
    rw [scan_text filled plain border] at found
    rcases later found with same | found
    · cases same
    · exact ih found

end Item

end WordMerge
