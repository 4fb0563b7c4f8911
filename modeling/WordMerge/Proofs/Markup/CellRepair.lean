import WordMerge.Markup.Cell
import WordMerge.Proofs.Markup.Elements

namespace WordMerge

namespace Cell

/-- Items with some empty paragraphs in front of markup. -/
inductive Mended : List Item → List Item → Prop where
  | nil : Mended [] []
  | copy (item : Item) {items mended : List Item} (later : Mended items mended) :
    Mended (item :: items) (item :: mended)
  | fill (raw : Text) {items mended : List Item} (later : Mended items mended) :
    Mended (.markup raw :: items) (.markup emptyParagraph :: .markup raw :: mended)

/-- Whether an item ends a cell that holds no paragraph. -/
def Repair.Lacks (repair : Repair) (item : Item) : Prop :=
  Edge.ofItem? item = some ⟨cellName, .closing⟩ ∧ repair.cells.head? = some false

instance (repair : Repair) (item : Item) : Decidable (repair.Lacks item) :=
  inferInstanceAs (Decidable (_ ∧ _))

theorem Repair.step_of_lacks {repair : Repair} {item : Item} (lacks : repair.Lacks item) :
    repair.step item = ⟨item.raw :: emptyParagraph :: repair.pieces, repair.cells.tail⟩ := by
  simp [Repair.step, lacks.1, lacks.2]

/-- Every other item is copied. -/
theorem Repair.step_pieces {repair : Repair} {item : Item} (fits : ¬ repair.Lacks item) :
    (repair.step item).pieces = item.raw :: repair.pieces := by
  unfold Repair.step
  dsimp only
  split
  · rfl
  · next edge found =>
    split
    · next cell =>
      split
      · rfl
      · next closing =>
        have holds : ¬ repair.cells.head? = some false := fun without =>
          fits ⟨by rw [found, ← cell, ← closing], without⟩
        rw [if_neg holds]
      · rfl
    · split <;> rfl

/-- What is known of the open cells depends on the items alone, not on what was written. -/
theorem Repair.step_cells_congr {repair other : Repair} (same : other.cells = repair.cells)
    (item : Item) : (other.step item).cells = (repair.step item).cells := by
  unfold Repair.step
  dsimp only
  rw [same]
  split
  · rfl
  · split
    · split <;> rfl
    · split <;> rfl

theorem Repair.step_emptyParagraph (repair : Repair) : repair.step (.markup emptyParagraph) =
    ⟨emptyParagraph :: repair.pieces, noteParagraph repair.cells⟩ := by
  have edge : Edge.ofItem? (.markup emptyParagraph) = some ⟨paragraphName, .empty⟩ := by
    decide +kernel
  have other : paragraphName ≠ cellName := by decide
  simp [Repair.step, edge, other, Item.raw]

theorem Repair.exists_markup_of_lacks {repair : Repair} {item : Item}
    (lacks : repair.Lacks item) : ∃ raw, item = .markup raw := by
  cases item with
  | markup raw => exact ⟨raw, rfl⟩
  | text raw => cases lacks.1

/-- A cell that got its paragraph lacks none. -/
theorem Repair.step_filled {repair other : Repair} {raw : Text}
    (lacks : repair.Lacks (.markup raw)) (same : other.cells = repair.cells) :
    (other.step (.markup emptyParagraph)).step (.markup raw) =
      ⟨raw :: emptyParagraph :: other.pieces, (repair.step (.markup raw)).cells⟩ := by
  obtain ⟨outer, cells⟩ := List.head?_eq_some_iff.mp lacks.2
  rw [step_emptyParagraph, step_of_lacks lacks]
  simp [Repair.step, lacks.1, same, cells, noteParagraph, Item.raw]

/-- The repair writes the mended items, and from these it would copy every one. -/
theorem exists_mended_foldl (items : List Item) (repair : Repair) :
    ∃ mended, Mended items mended ∧
      (items.foldl Repair.step repair).pieces.reverse.flatten =
        repair.pieces.reverse.flatten ++ Item.spell mended ∧
      ∀ other : Repair, other.cells = repair.cells →
        (mended.foldl Repair.step other).pieces.reverse.flatten =
          other.pieces.reverse.flatten ++ Item.spell mended := by
  induction items generalizing repair with
  | nil => exact ⟨[], .nil, by simp [Item.spell], fun _ _ => by simp [Item.spell]⟩
  | cons item rest ih =>
    obtain ⟨mended, later, spelled, copied⟩ := ih (repair.step item)
    rw [List.foldl_cons, spelled]
    by_cases lacks : repair.Lacks item
    · obtain ⟨raw, rfl⟩ := Repair.exists_markup_of_lacks lacks
      refine ⟨_, later.fill raw, ?_, fun other same => ?_⟩
      · simp [Repair.step_of_lacks lacks, Item.spell, Item.raw]
      · have filled := Repair.step_filled lacks same
        have cells := congrArg Repair.cells filled
        rw [List.foldl_cons, List.foldl_cons, copied _ cells, filled]
        simp [Item.spell, Item.raw]
    · refine ⟨item :: mended, later.copy item, ?_, fun other same => ?_⟩
      · simp [Repair.step_pieces lacks, Item.spell]
      · have fits : ¬ other.Lacks item := by rwa [Repair.Lacks, same]
        rw [List.foldl_cons, copied _ (Repair.step_cells_congr same item)]
        simp [Repair.step_pieces fits, Item.spell]

theorem cut_emptyParagraph : Item.Cut emptyParagraph := by
  have found : .markup emptyParagraph ∈ Item.scan emptyParagraph := by decide +kernel
  exact Item.cut_of_mem_scan found (by decide +kernel)

/-- The repair puts nothing between character data and the markup behind it. -/
theorem Mended.head_spell {s : Text} (border : ∀ c ∈ s.head?, c = '<') {mended : List Item}
    (mends : Mended (Item.scan s) mended) :
    ∀ c ∈ (Item.spell mended).head?, c = '<' := by
  have spelled := Item.spell_scan s
  generalize scanned : Item.scan s = items at mends spelled
  have markup {raw : Text} {rest : List Item} (first : items = .markup raw :: rest)
      (more : Text) : (raw ++ more).head? = some '<' := by
    have member : .markup raw ∈ Item.scan s := by simp [scanned, first]
    simp [List.head?_append, Item.head?_of_mem_scan member]
  cases mends with
  | nil => simp [Item.spell]
  | copy item later =>
    cases item with
    | markup raw =>
      rw [Item.spell, List.flatMap_cons, Item.raw, markup rfl]
      simp
    | text raw =>
      have member : .text raw ∈ Item.scan s := by simp [scanned]
      obtain ⟨filled, plain⟩ := Item.plain_of_mem_scan member
      obtain ⟨c, tail, rfl⟩ := List.exists_cons_of_ne_nil filled
      rw [← spelled] at border
      have first := border c rfl
      simp [first] at plain
  | fill raw later => exact fun c first => (Option.some.inj first).symm

/-- Mended items are what is read from them, also where the last markup has no end. -/
theorem Mended.scan_spell {s : Text} {mended : List Item} (mends : Mended (Item.scan s) mended) :
    Item.scan (Item.spell mended) = mended := by
  induction s using Item.part_induction generalizing mended with
  | nil =>
    rw [Item.scan_nil] at mends
    cases mends
    simp [Item.spell]
  | unfinished s opened unfinished =>
    have alone := Item.scan_of_not_finished opened unfinished
    have spelled : Item.spell [.markup s] = s := by simp [Item.spell, Item.raw]
    rw [alone] at mends
    cases mends with
    | copy _ later =>
      cases later
      rw [spelled, alone]
    | fill _ later =>
      cases later
      rw [Item.spell, List.flatMap_cons, Item.raw, Item.scan_cut cut_emptyParagraph, ← Item.spell,
        spelled, alone]
  | markup raw after cut ih =>
    rw [Item.scan_cut cut] at mends
    cases mends with
    | copy item later =>
      rw [Item.spell, List.flatMap_cons, Item.raw, Item.scan_cut cut]
      exact congrArg _ (ih later)
    | fill raw later =>
      rw [Item.spell, List.flatMap_cons, List.flatMap_cons, Item.raw, Item.raw,
        Item.scan_cut cut_emptyParagraph, Item.scan_cut cut]
      exact congrArg _ (congrArg _ (ih later))
  | text raw after filled plain border ih =>
    rw [Item.scan_text filled plain border] at mends
    cases mends with
    | copy item later =>
      rw [Item.spell, List.flatMap_cons, Item.raw, Item.scan_text filled plain]
      · exact congrArg _ (ih later)
      · exact later.head_spell border

/-- The repair leaves the items of a part, with some empty paragraphs in front of markup. -/
theorem mended_scan_repairAll (source : Text) :
    Mended (Item.scan source) (Item.scan (repairAll source)) := by
  obtain ⟨mended, mends, spelled, _⟩ := exists_mended_foldl (Item.scan source) {}
  have written : repairAll source = Item.spell mended := by
    rw [repairAll, spelled]
    rfl
  rwa [written, mends.scan_spell]

theorem Mended.refl (items : List Item) : Mended items items := by
  induction items with
  | nil => exact .nil
  | cons item rest ih => exact ih.copy item

theorem mended_scan_repair (source : Text) :
    Mended (Item.scan source) (Item.scan (repair source)) := by
  unfold repair
  split
  · exact mended_scan_repairAll source
  · exact Mended.refl _

/-- Read again, the repaired part needs no repair: that its markup is read as it was written is what
keeps the cells as they are. -/
theorem repairAll_repairAll (source : Text) :
    repairAll (repairAll source) = repairAll source := by
  obtain ⟨mended, mends, spelled, copied⟩ := exists_mended_foldl (Item.scan source) {}
  have written : repairAll source = Item.spell mended := by
    rw [repairAll, spelled]
    rfl
  rw [written, repairAll, mends.scan_spell, copied {} rfl]
  rfl

/-- A repaired part needs no repair. -/
theorem repair_repair (source : Text) : repair (repair source) = repair source := by
  cases mentioned : Text.occurs ('<' :: cellName) source with
  | true =>
    have repaired : repair source = repairAll source := by rw [repair, if_pos mentioned]
    rw [repaired, repair, repairAll_repairAll, ite_self]
  | false =>
    have kept : repair source = source := by
      rw [repair, if_neg (Bool.eq_false_iff.mp mentioned)]
    rw [kept, kept]

/-- The repair brings no other markup into a part. -/
theorem Mended.mem_markup {items mended : List Item} (mends : Mended items mended) {raw : Text}
    (found : .markup raw ∈ mended) : .markup raw ∈ items ∨ raw = emptyParagraph := by
  induction mends with
  | nil => cases found
  | copy item _ ih =>
    rcases List.mem_cons.mp found with rfl | later
    · exact .inl List.mem_cons_self
    · exact (ih later).imp_left (List.mem_cons_of_mem item)
  | fill other _ ih =>
    rcases List.mem_cons.mp found with same | later
    · exact .inr (Item.markup.inj same)
    · rcases List.mem_cons.mp later with same | later
      · exact .inl (same ▸ List.mem_cons_self)
      · exact (ih later).imp_left (List.mem_cons_of_mem _)

/-- Empty paragraphs make no difference to the elements of a part. -/
theorem Mended.passAll_eq {items mended : List Item} (mends : Mended items mended)
    (opened : List Text) : Edge.passAll opened (mended.filterMap Edge.ofItem?) =
      Edge.passAll opened (items.filterMap Edge.ofItem?) := by
  have empty : Edge.ofMarkup? emptyParagraph = some ⟨paragraphName, .empty⟩ := by decide +kernel
  induction mends generalizing opened with
  | nil => rfl
  | copy item _ ih =>
    cases edge : Edge.ofItem? item with
    | none => simp [edge, ih]
    | some edge =>
      simp only [List.filterMap_cons, edge, Edge.passAll, List.foldlM_cons]
      congr 1
      funext after
      exact ih after
  | fill raw _ ih =>
    have neutral (edges : List Edge) :
        Edge.passAll opened (⟨paragraphName, .empty⟩ :: edges) = Edge.passAll opened edges := rfl
    rw [List.filterMap_cons, Edge.ofItem?, empty]
    dsimp only
    rw [neutral]
    cases edge : Edge.ofMarkup? raw with
    | none => simp [Edge.ofItem?, edge, ih]
    | some edge =>
      simp only [List.filterMap_cons, Edge.ofItem?, edge, Edge.passAll, List.foldlM_cons]
      congr 1
      funext after
      exact ih after

end Cell

/-- A well-formed part stays well formed when its cells are repaired. -/
theorem WellFormed.repair {source : Text} (formed : WellFormed source) :
    WellFormed (Cell.repair source) := by
  have mends := Cell.mended_scan_repair source
  refine ⟨fun raw found => ?_, ?_⟩
  · rcases mends.mem_markup found with before | rfl
    · exact formed.whole raw before
    · exact Cell.cut_emptyParagraph.ends
  · exact (mends.passAll_eq []).trans formed.nested

end WordMerge
