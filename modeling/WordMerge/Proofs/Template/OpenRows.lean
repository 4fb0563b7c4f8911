import WordMerge.Proofs.Template.Placement

namespace WordMerge

namespace Reading

section Frame

variable (r : Reading)

theorem finishTag_frame (pending : PendingTag) :
    (r.finishTag pending).rows = r.rows ∧ (r.finishTag pending).openRows = r.openRows ∧
      (r.finishTag pending).openCells = r.openCells := by
  unfold finishTag
  dsimp only
  split <;> exact ⟨rfl, rfl, rfl⟩

theorem abandon_frame :
    r.abandon.rows = r.rows ∧ r.abandon.openRows = r.openRows ∧
      r.abandon.openCells = r.openCells := by
  unfold abandon
  split <;> exact ⟨rfl, rfl, rfl⟩

theorem plain_frame (text : Text) :
    (r.plain text).rows = r.rows ∧ (r.plain text).openRows = r.openRows ∧
      (r.plain text).openCells = r.openCells := by
  unfold plain
  repeat' split
  all_goals exact ⟨rfl, rfl, rfl⟩

end Frame

/-- Character data opens and closes no row and no cell. -/
theorem Passes.frame {r final : Reading} {before rest : Text} (passes : r.Passes before rest final) :
    final.rows = r.rows ∧ final.openRows = r.openRows ∧ final.openCells = r.openCells := by
  induction passes with
  | settle _ => exact plain_frame _ _
  | wait _ => exact ⟨rfl, rfl, rfl⟩
  | @first r before _ _ _ _ ih =>
    obtain ⟨rows, openRows, openCells⟩ := r.plain_frame before.reverse
    exact ⟨ih.1.trans rows, ih.2.1.trans openRows, ih.2.2.trans openCells⟩
  | @again r _ _ _ _ _ _ ih =>
    obtain ⟨rows, openRows, openCells⟩ := r.abandon_frame
    exact ⟨ih.1.trans rows, ih.2.1.trans openRows, ih.2.2.trans openCells⟩
  | @finish r _ _ _ tag _ _ ih =>
    obtain ⟨rows, openRows, openCells⟩ := { r with pending := none }.finishTag_frame tag
    exact ⟨ih.1.trans rows, ih.2.1.trans openRows, ih.2.2.trans openCells⟩
  | unopened _ _ ih => exact ih
  | extend _ _ _ _ ih => exact ih
  | hold _ _ _ _ ih => exact ih

/-- The rows and cells opened since `base` and not closed yet are those among the given elements,
and the rows of `base` are as they were. -/
structure Above (base r : Reading) (opened : List Text) : Prop where
  rows : ∃ ids, r.openRows = ids ++ base.openRows ∧ ids.length = opened.count rowName ∧
    ∀ id ∈ ids, base.rows.size ≤ id
  cells : ∃ ids, r.openCells = ids ++ base.openCells ∧ ids.length = opened.count cellName
  spans : ∀ id < base.rows.size, r.rows[id]? = base.rows[id]?
  grown : base.rows.size ≤ r.rows.size

variable {base r : Reading} {opened after : List Text}

theorem above_start (base : Reading) : Above base base [] :=
  ⟨⟨[], rfl, rfl, nofun⟩, ⟨[], rfl, rfl⟩, fun _ _ => rfl, Nat.le_refl _⟩

theorem Above.congr (above : Above base r opened) {next : Reading} (rows : next.rows = r.rows)
    (openRows : next.openRows = r.openRows) (openCells : next.openCells = r.openCells) :
    Above base next opened := by
  obtain ⟨inner, cells, spans, grown⟩ := above
  exact ⟨openRows ▸ inner, openCells ▸ cells, rows ▸ spans, rows ▸ grown⟩

/-- Markup other than that of rows and cells leaves the open ones as they are. -/
theorem enter_frame {landmark : Landmark}
    (other : landmark ∉ [.rowStart, .rowEnd, .cellStart, .cellEnd]) :
    (r.enter landmark).rows = r.rows ∧ (r.enter landmark).openRows = r.openRows ∧
      (r.enter landmark).openCells = r.openCells := by
  cases landmark with
  | rowStart | rowEnd | cellStart | cellEnd => simp at other
  | paragraphEnd =>
    obtain ⟨rows, openRows, openCells⟩ := abandon_frame r
    simp only [enter, closeParagraph]
    split <;> exact ⟨rows, openRows, openCells⟩
  | paragraphStart | textStart | textEnd | lineBreak | other => exact ⟨rfl, rfl, rfl⟩

/-- Markup other than the tags of a paragraph matters to no paragraph and to no tag. -/
theorem enter_of_inner {landmark : Landmark} (inner : landmark ∉ [.paragraphStart, .paragraphEnd])
    (r : Reading) : (r.enter landmark).openParagraphs = r.openParagraphs ∧
      (r.enter landmark).faults = r.faults ∧ (r.enter landmark).pending = r.pending ∧
      (r.enter landmark).paragraphs = r.paragraphs := by
  cases landmark with
  | paragraphStart | paragraphEnd => simp at inner
  | rowEnd =>
    rw [enter, closeRow]
    split <;> exact ⟨rfl, rfl, rfl, rfl⟩
  | textStart | textEnd | rowStart | cellStart | cellEnd | lineBreak | other =>
    exact ⟨rfl, rfl, rfl, rfl⟩

/-- The start tag of a row opens it. -/
theorem Above.rowStart (above : Above base r opened) :
    Above base r.openRow (rowName :: opened) := by
  obtain ⟨⟨ids, numbers, count, new⟩, ⟨cells, inner, levels⟩, spans, grown⟩ := above
  refine ⟨⟨r.rows.size :: ids, ?_, ?_, ?_⟩, ⟨cells, inner, ?_⟩, fun id old => ?_, ?_⟩
  · rw [openRow, numbers, List.cons_append]
  · rw [List.length_cons, List.count_cons_self, count]
  · rw [List.forall_mem_cons]
    exact ⟨grown, new⟩
  · rw [List.count_cons_of_ne (by decide), levels]
  · rw [openRow, Array.getElem?_push, if_neg (by omega)]
    exact spans id old
  · rw [openRow, Array.size_push]
    omega

theorem Above.rowEnd (above : Above base r (rowName :: opened)) : Above base r.closeRow opened := by
  obtain ⟨⟨ids, numbers, count, new⟩, ⟨cells, inner, levels⟩, spans, grown⟩ := above
  rw [List.count_cons_self] at count
  rw [List.count_cons_of_ne (by decide)] at levels
  cases ids with
  | nil => cases count
  | cons id ids =>
    rw [List.forall_mem_cons] at new
    rw [closeRow, numbers, List.cons_append]
    refine ⟨⟨ids, rfl, Nat.succ.inj count, new.2⟩, ⟨cells, inner, levels⟩, fun other old => ?_, ?_⟩
    · -- only a row opened since then gets its end
      rw [Array.getElem?_modify, if_neg (by omega)]
      exact spans other old
    · rw [Array.size_modify]
      exact grown

theorem Above.cellStart (above : Above base r opened) :
    Above base (r.enter .cellStart) (cellName :: opened) := by
  obtain ⟨⟨ids, numbers, count, new⟩, ⟨cells, inner, levels⟩, spans, grown⟩ := above
  refine ⟨⟨ids, numbers, ?_, new⟩, ⟨r.cellCount :: cells, ?_, ?_⟩, spans, grown⟩
  · rw [List.count_cons_of_ne (by decide), count]
  · rw [Reading.enter, inner, List.cons_append]
  · rw [List.length_cons, List.count_cons_self, levels]

/-- The end tag of a cell closes it. -/
theorem Above.cellEnd (above : Above base r (cellName :: opened)) :
    Above base (r.enter .cellEnd) opened := by
  obtain ⟨⟨ids, numbers, count, new⟩, ⟨cells, inner, levels⟩, spans, grown⟩ := above
  rw [List.count_cons_of_ne (by decide)] at count
  rw [List.count_cons_self] at levels
  cases cells with
  | nil => cases levels
  | cons id cells =>
    refine ⟨⟨ids, numbers, count, new⟩, ⟨cells, ?_, Nat.succ.inj levels⟩, spans, grown⟩
    rw [Reading.enter, inner, List.cons_append, List.tail_cons]

/-- Passing an edge opens or closes what the edge opens or closes. -/
theorem Above.enter (above : Above base r opened) {edge : Edge}
    (passed : Edge.pass opened edge = some after) :
    Above base (r.enter (Landmark.ofEdge edge)) after := by
  -- an edge of another element keeps both counts
  have other (distinct : edge ∉ [⟨rowName, .opening⟩, ⟨rowName, .closing⟩, ⟨cellName, .opening⟩,
        ⟨cellName, .closing⟩]) (rows : after.count rowName = opened.count rowName)
      (cells : after.count cellName = opened.count cellName) :
      Above base (r.enter (Landmark.ofEdge edge)) after := by
    have role : Landmark.ofEdge edge ∉ [.rowStart, .rowEnd, .cellStart, .cellEnd] :=
      Landmark.ofEdge_not_mem (by simpa [Landmark.edge?] using distinct)
    obtain ⟨same, openRows, openCells⟩ := enter_frame (r := r) role
    have kept := above.congr same openRows openCells
    exact ⟨rows ▸ kept.rows, cells ▸ kept.cells, kept.spans, kept.grown⟩
  cases Edge.pass_eq_some.mp passed with
  | empty name => exact other (by simp) rfl rfl
  | opening name =>
    by_cases row : name = rowName
    · subst row
      exact above.rowStart
    · by_cases cell : name = cellName
      · subst cell
        exact above.cellStart
      · exact other (by simp [row, cell]) (List.count_cons_of_ne row) (List.count_cons_of_ne cell)
  | closing name =>
    by_cases row : name = rowName
    · subst row
      exact above.rowEnd
    · by_cases cell : name = cellName
      · subst cell
        exact above.cellEnd
      · exact other (by simp [row, cell]) (List.count_cons_of_ne row).symm
          (List.count_cons_of_ne cell).symm

theorem Above.markup (above : Above base r opened) {raw : Text}
    (passed : Edge.passAll opened (Edge.ofMarkup? raw).toList = some after) :
    Above base (r.markup raw) after := by
  rw [Reading.markup, Landmark.ofMarkup]
  have entered : Above base (r.enter ((Edge.ofMarkup? raw).elim .other Landmark.ofEdge)) after := by
    cases edge : Edge.ofMarkup? raw with
    | none =>
      rw [edge] at passed
      cases passed
      exact above
    | some edge =>
      rw [edge] at passed
      obtain ⟨_, here, last⟩ := Option.bind_eq_some_iff.mp passed
      cases last
      exact above.enter here
  exact entered.congr rfl rfl rfl

/-- Passing items keeps the rows and cells opened since `base` apart from those before. -/
theorem Above.foldl_step {items : List Item} (above : Above base r opened)
    (passed : Edge.passAll opened (items.filterMap Edge.ofItem?) = some after) :
    Above base (items.foldl step r) after := by
  induction items generalizing r opened with
  | nil =>
    cases passed
    exact above
  | cons item rest ih =>
    cases item with
    | markup raw =>
      have split : (Item.markup raw :: rest).filterMap Edge.ofItem? =
          (Edge.ofMarkup? raw).toList ++ rest.filterMap Edge.ofItem? := by
        cases edge : Edge.ofMarkup? raw <;> simp [Edge.ofItem?, edge]
      rw [split, Edge.passAll_append] at passed
      obtain ⟨next, here, later⟩ := Option.bind_eq_some_iff.mp passed
      exact ih (above.markup here) later
    | text raw =>
      refine ih ?_ passed
      obtain ⟨rows, openRows, openCells⟩ := (r.passes_characters [] raw).frame
      rw [step]
      split
      · exact above.congr rows openRows openCells
      · exact above.congr rfl rfl rfl

/-- Behind elements that nest no row and no cell is open. -/
theorem rows_cells_closed {items : List Item}
    (nested : Edge.passAll [] (items.filterMap Edge.ofItem?) = some []) :
    (items.foldl step {}).openRows = [] ∧ (items.foldl step {}).openCells = [] := by
  obtain ⟨⟨rows, openRows, levels, _⟩, ⟨cells, openCells, levels'⟩, _, _⟩ :=
    (above_start {}).foldl_step nested
  have noRow : rows = [] := List.length_eq_zero_iff.mp levels
  have noCell : cells = [] := List.length_eq_zero_iff.mp levels'
  rw [openRows, openCells, noRow, noCell]
  exact ⟨rfl, rfl⟩

end Reading

end WordMerge
