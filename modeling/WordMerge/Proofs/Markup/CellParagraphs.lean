import WordMerge.Proofs.Render.TemplateText

namespace WordMerge

namespace Edge

/-- What happens to the elements that some edges open does not depend on the elements around. -/
theorem passAll_append_right {opened after : List Text} {edges : List Edge}
    (passed : passAll opened edges = some after) (outer : List Text) :
    passAll (opened ++ outer) edges = some (after ++ outer) := by
  induction edges generalizing opened with
  | nil =>
    cases passed
    rfl
  | cons edge rest ih =>
    obtain ⟨next, step, passed⟩ := Option.bind_eq_some_iff.mp passed
    exact Option.bind_eq_some_iff.mpr ⟨next ++ outer, pass_append_right step outer, ih passed⟩

/-- How a start tag is written. -/
theorem exists_of_ofMarkup?_eq_opening {raw name : Text}
    (edge : ofMarkup? raw = some ⟨name, .opening⟩) : ∃ tail, raw = '<' :: name ++ tail := by
  unfold ofMarkup? at edge
  split at edge
  · cases edge
  · cases edge
  · unfold ofMarkup?.named at edge
    dsimp only at edge
    split at edge
    · cases edge
    · cases edge
  · unfold ofMarkup?.named at edge
    dsimp only at edge
    split at edge
    · cases edge
    · simp only [Option.some.injEq, Edge.mk.injEq] at edge
      obtain ⟨tail, split, _⟩ := exists_append_of_takeWhile_name edge.1
      exact ⟨tail, congrArg (List.cons '<') split⟩
  · cases edge

end Edge

namespace Cell

/-- The edges of cells among some items. -/
def edges (items : List Item) : List Edge :=
  (items.filterMap Edge.ofItem?).filter fun edge => edge.name = cellName

/-- The cells that are open behind some items, where `opened` are open in front of them. -/
def pass (opened : List Text) (items : List Item) : Option (List Text) :=
  Edge.passAll opened (edges items)

/-- Whether the cells that begin among some items are those that end there. -/
def Closed (items : List Item) : Prop :=
  pass [] items = some []

/-- Whether every cell that begins among some items ends there, while others may end there too. -/
def NoneOpen (items : List Item) : Prop :=
  ∀ front back opened, items = front ++ back → pass [] back = some opened → opened = []

/-- The start tag of a cell, what the cell holds, and the end tag that belongs to the start tag. -/
structure Spans (start : Item) (inside : List Item) (stop : Item) : Prop where
  opens : Edge.ofItem? start = some ⟨cellName, .opening⟩
  closed : Closed inside
  closes : Edge.ofItem? stop = some ⟨cellName, .closing⟩

/-- Whether a paragraph begins with an item: it is a start tag or an empty paragraph. -/
def BeginsParagraph (item : Item) : Prop :=
  ∃ side, side ≠ .closing ∧ Edge.ofItem? item = some ⟨paragraphName, side⟩

/-- Whether a cell that holds some items has a paragraph of its own: a paragraph begins there when
every cell inside the cell that began before has ended. -/
def HasParagraph (inside : List Item) : Prop :=
  ∃ front item back, inside = front ++ item :: back ∧ Closed front ∧ BeginsParagraph item

/-- Whether an item behind others ends a cell that has no paragraph. -/
def Lacking (before : List Item) (item : Item) : Prop :=
  ∃ front start inside, before = front ++ start :: inside ∧ Spans start inside item ∧
    ¬ HasParagraph inside

/-- Items behind others, with an empty paragraph in front of the end of every cell that has none. -/
inductive Filled : List Item → List Item → List Item → Prop
  | nil (before : List Item) : Filled before [] []
  | copy {before items filled : List Item} {item : Item} :
      ¬ Lacking before item → Filled (before ++ [item]) items filled →
      Filled before (item :: items) (item :: filled)
  | fill {before items filled : List Item} {item : Item} :
      Lacking before item → Filled (before ++ [item]) items filled →
      Filled before (item :: items) (.markup emptyParagraph :: item :: filled)

theorem pass_append (opened : List Text) (a b : List Item) :
    pass opened (a ++ b) = (pass opened a).bind (pass · b) := by
  simp [pass, edges, Edge.passAll_append]

theorem pass_cons (opened : List Text) (item : Item) (rest : List Item) :
    pass opened (item :: rest) = (pass opened [item]).bind (pass · rest) :=
  pass_append opened [item] rest

theorem pass_opening {item : Item} (opens : Edge.ofItem? item = some ⟨cellName, .opening⟩)
    (opened : List Text) : pass opened [item] = some (cellName :: opened) := by
  simp [pass, edges, opens, Edge.passAll, Edge.pass]

theorem pass_closing_nil {item : Item} (closes : Edge.ofItem? item = some ⟨cellName, .closing⟩) :
    pass [] [item] = none := by
  simp [pass, edges, closes, Edge.passAll, Edge.pass]

theorem pass_closing {item : Item} (closes : Edge.ofItem? item = some ⟨cellName, .closing⟩)
    (top : Text) (opened : List Text) :
    pass (top :: opened) [item] = if top = cellName then some opened else none := by
  simp [pass, edges, closes, Edge.passAll, Edge.pass]

/-- Whether an item leaves the open cells as they are. -/
def Quiet (item : Item) : Prop :=
  ∀ opened, pass opened [item] = some opened

theorem quiet_of_ne {item : Item}
    (opens : Edge.ofItem? item ≠ some ⟨cellName, .opening⟩)
    (closes : Edge.ofItem? item ≠ some ⟨cellName, .closing⟩) : Quiet item := by
  intro opened
  cases found : Edge.ofItem? item with
  | none => simp [pass, edges, found, Edge.passAll]
  | some edge =>
    obtain ⟨name, side⟩ := edge
    by_cases cell : name = cellName
    · subst cell
      cases side with
      | empty => simp [pass, edges, found, Edge.passAll, Edge.pass]
      | opening => exact absurd found opens
      | closing => exact absurd found closes
    · simp [pass, edges, found, cell, Edge.passAll]

theorem BeginsParagraph.quiet {item : Item} (begins : BeginsParagraph item) : Quiet item := by
  obtain ⟨side, _, edge⟩ := begins
  have other : paragraphName ≠ cellName := by decide
  exact quiet_of_ne (by simp [edge, other]) (by simp [edge, other])

theorem pass_append_right {opened after : List Text} {items : List Item}
    (passed : pass opened items = some after) (outer : List Text) :
    pass (opened ++ outer) items = some (after ++ outer) :=
  Edge.passAll_append_right passed outer

theorem closed_nil : Closed [] := rfl

/-- What is closed leaves all cells open that are open around it. -/
theorem Closed.pass_eq {items : List Item} (closed : Closed items) (opened : List Text) :
    pass opened items = some opened := by
  have alone : pass [] items = some [] := closed
  exact pass_append_right alone opened

theorem Closed.append_iff {a : List Item} (closed : Closed a) (b : List Item) :
    Closed (a ++ b) ↔ Closed b := by
  rw [Closed, pass_append, closed.pass_eq, Option.bind_some, Closed]

theorem Closed.concat {items : List Item} (closed : Closed items) {item : Item}
    (quiet : Quiet item) : Closed (items ++ [item]) :=
  (closed.append_iff [item]).mpr (quiet [])

/-- Items in front of others that are closed together may leave cells open, but close none around
them. -/
theorem Closed.exists_front {a b : List Item} (closed : Closed (a ++ b)) :
    ∃ opened, pass [] a = some opened := by
  rw [Closed, pass_append] at closed
  obtain ⟨opened, front, _⟩ := Option.bind_eq_some_iff.mp closed
  exact ⟨opened, front⟩

theorem Closed.noneOpen {items : List Item} (closed : Closed items) : NoneOpen items := by
  rintro front back opened rfl passed
  rw [Closed, pass_append] at closed
  obtain ⟨between, _, later⟩ := Option.bind_eq_some_iff.mp closed
  have grown := pass_append_right passed between
  rw [List.nil_append, later] at grown
  exact (List.append_eq_nil_iff.mp (Option.some.inj grown).symm).1

/-- If neither row leaves a cell open, the whole leaves none open. -/
theorem NoneOpen.append {a b : List Item} (first : NoneOpen a) (second : NoneOpen b) :
    NoneOpen (a ++ b) := by
  intro front back opened split passed
  rcases List.append_eq_append_iff.mp split with ⟨middle, rfl, inSecond⟩ | ⟨middle, rfl, rfl⟩
  · exact second middle back opened inSecond passed
  · rw [pass_append] at passed
    obtain ⟨between, here, later⟩ := Option.bind_eq_some_iff.mp passed
    cases first front middle between rfl here
    exact second [] b opened rfl later

/-- Where no cell is open, an end tag changes nothing. -/
theorem noneOpen_closing {item : Item} (closes : Edge.ofItem? item = some ⟨cellName, .closing⟩) :
    NoneOpen [item] := by
  intro front back opened split passed
  rcases List.singleton_eq_append_iff.mp split with ⟨_, rfl⟩ | ⟨_, rfl⟩
  · rw [pass_closing_nil closes] at passed
    cases passed
  · exact (Option.some.inj passed).symm

/-- A cell is closed. -/
theorem Spans.closed_cell {start stop : Item} {inside : List Item}
    (spans : Spans start inside stop) : Closed (start :: (inside ++ [stop])) := by
  rw [Closed, pass_cons, pass_opening spans.opens, Option.bind_some, pass_append,
    spans.closed.pass_eq, Option.bind_some, pass_closing spans.closes, if_pos rfl]

/-- Inside a cell, the cell is open. -/
theorem Spans.not_closed_front {start stop : Item} {front back : List Item}
    (spans : Spans start (front ++ back) stop) : ¬ Closed (start :: front) := by
  intro even
  obtain ⟨opened, before⟩ := spans.closed.exists_front
  have around := pass_append_right before [cellName]
  rw [Closed, pass_cons, pass_opening spans.opens, Option.bind_some] at even
  rw [List.nil_append, even] at around
  simp at around

/-- What follows the start tag of a cell among items that are closed together is not closed. -/
theorem Closed.not_closed_behind {front back : List Item} {start : Item}
    (closed : Closed (front ++ start :: back))
    (opens : Edge.ofItem? start = some ⟨cellName, .opening⟩) : ¬ Closed back := by
  intro even
  obtain ⟨opened, before⟩ := closed.exists_front
  rw [Closed, pass_append, before, Option.bind_some, pass_cons, pass_opening opens,
    Option.bind_some, even.pass_eq] at closed
  cases closed

/-- An end tag belongs to one start tag. -/
theorem span_unique {front front' inside inside' : List Item} {start start' : Item}
    (same : front ++ start :: inside = front' ++ start' :: inside')
    (opens : Edge.ofItem? start = some ⟨cellName, .opening⟩)
    (opens' : Edge.ofItem? start' = some ⟨cellName, .opening⟩)
    (closed : Closed inside) (closed' : Closed inside') : front = front' ∧ inside = inside' := by
  rcases List.append_eq_append_iff.mp same with ⟨middle, rfl, split⟩ | ⟨middle, rfl, split⟩
  · cases middle with
    | nil =>
      cases split
      exact ⟨(List.append_nil _).symm, rfl⟩
    | cons first middle =>
      cases split
      exact absurd closed' (closed.not_closed_behind opens')
  · cases middle with
    | nil =>
      cases split
      exact ⟨List.append_nil _, rfl⟩
    | cons first middle =>
      cases split
      exact absurd closed (closed'.not_closed_behind opens)

theorem not_hasParagraph_nil : ¬ HasParagraph [] := by
  rintro ⟨front, item, back, split, _⟩
  simp at split

theorem HasParagraph.append {inside : List Item} (has : HasParagraph inside) (more : List Item) :
    HasParagraph (inside ++ more) := by
  obtain ⟨front, item, back, rfl, closed, begins⟩ := has
  exact ⟨front, item, back ++ more, by simp, closed, begins⟩

theorem hasParagraph_concat {inside : List Item} {item : Item} (other : ¬ BeginsParagraph item) :
    HasParagraph (inside ++ [item]) ↔ HasParagraph inside := by
  refine ⟨?_, fun has => has.append [item]⟩
  rintro ⟨front, first, back, split, closed, begins⟩
  rcases List.eq_nil_or_concat back with rfl | ⟨back, last, rfl⟩
  · obtain ⟨_, same⟩ := List.append_inj' split rfl
    cases same
    exact absurd begins other
  · rw [List.concat_eq_append, ← List.cons_append, ← List.append_assoc] at split
    exact ⟨front, first, back, (List.append_inj' split rfl).1, closed, begins⟩

/-- A paragraph of a cell inside another one is none of the outer cell. -/
theorem hasParagraph_append_cell {outer inside : List Item} {start stop : Item}
    (closed : Closed outer) (spans : Spans start inside stop) :
    HasParagraph (outer ++ start :: (inside ++ [stop])) ↔ HasParagraph outer := by
  refine ⟨?_, fun has => has.append _⟩
  rintro ⟨front, item, back, split, free, begins⟩
  have apart {tag : Item} {side : Side} (edge : Edge.ofItem? tag = some ⟨cellName, side⟩) :
      item ≠ tag := by
    rintro rfl
    obtain ⟨_, _, paragraph⟩ := begins
    rw [edge] at paragraph
    cases paragraph
  rcases List.append_eq_append_iff.mp split with ⟨middle, rfl, inCell⟩ | ⟨middle, rfl, inOuter⟩
  · rw [closed.append_iff] at free
    cases middle with
    | nil =>
      cases inCell
      exact absurd rfl (apart spans.opens)
    | cons first middle =>
      rw [List.cons_append, List.cons.injEq] at inCell
      obtain ⟨rfl, inCell⟩ := inCell
      rcases List.eq_nil_or_concat back with rfl | ⟨back, last, rfl⟩
      · obtain ⟨_, same⟩ := List.append_inj' inCell rfl
        cases same
        exact absurd rfl (apart spans.closes)
      · rw [List.concat_eq_append, ← List.cons_append, ← List.append_assoc] at inCell
        -- in front of the paragraph the inner cell has begun and is still open
        rw [(List.append_inj' inCell rfl).1] at spans
        exact absurd free spans.not_closed_front
  · cases middle with
    | nil =>
      cases inOuter
      exact absurd rfl (apart spans.opens)
    | cons first middle =>
      cases inOuter
      exact ⟨front, item, middle, rfl, free, begins⟩

/-- What a repair knows behind some items: for each cell that has begun and not ended, the innermost
one first, whether it has a paragraph so far. -/
inductive Tells : List Bool → List Item → Prop
  | outside {before : List Item} : NoneOpen before → Tells [] before
  | inside {outer : List Bool} {front inside : List Item} {start : Item} {has : Bool} :
      Tells outer front → Edge.ofItem? start = some ⟨cellName, .opening⟩ → Closed inside →
      (has = true ↔ HasParagraph inside) → Tells (has :: outer) (front ++ start :: inside)

theorem tells_start : Tells ({} : Repair).cells [] :=
  .outside closed_nil.noneOpen

/-- A repair sees which end tags lack a paragraph. -/
theorem Tells.lacks_iff {repair : Repair} {before : List Item} (tells : Tells repair.cells before)
    (item : Item) : repair.Lacks item ↔ Lacking before item := by
  constructor
  · rintro ⟨closes, without⟩
    generalize repair.cells = cells at tells without
    cases tells with
    | outside => cases without
    | inside _ opens closed has =>
      cases without
      exact ⟨_, _, _, rfl, ⟨opens, closed, closes⟩, fun found => by simpa using has.mpr found⟩
  · rintro ⟨front, start, inside, split, spans, without⟩
    refine ⟨spans.closes, ?_⟩
    generalize repair.cells = cells at tells ⊢
    cases tells with
    | outside none =>
      have opened : pass [] (start :: inside) = some [cellName] := by
        rw [pass_cons, pass_opening spans.opens, Option.bind_some, spans.closed.pass_eq]
      cases none front (start :: inside) _ split opened
    | inside _ opens closed has =>
      obtain ⟨_, rfl⟩ := span_unique split opens spans.opens closed spans.closed
      have missing := mt has.mp without
      simpa using missing

/-- What is no tag of a cell and begins no paragraph changes nothing in what is known. -/
theorem Tells.quiet {cells : List Bool} {before : List Item} (tells : Tells cells before)
    {item : Item} (quiet : Quiet item) (other : ¬ BeginsParagraph item) :
    Tells cells (before ++ [item]) := by
  cases tells with
  | outside none => exact .outside (none.append (closed_nil.concat quiet).noneOpen)
  | inside outer opens closed has =>
    rw [List.append_assoc, List.cons_append]
    exact .inside outer opens (closed.concat quiet) (has.trans (hasParagraph_concat other).symm)

/-- A paragraph is noted in the innermost open cell. -/
theorem Tells.paragraph {cells : List Bool} {before : List Item} (tells : Tells cells before)
    {item : Item} (begins : BeginsParagraph item) :
    Tells (noteParagraph cells) (before ++ [item]) := by
  cases tells with
  | outside none => exact .outside (none.append (closed_nil.concat begins.quiet).noneOpen)
  | @inside _ _ inside _ _ outer opens closed _ =>
    rw [List.append_assoc, List.cons_append]
    exact .inside outer opens (closed.concat begins.quiet)
      ⟨fun _ => ⟨inside, item, [], rfl, closed, begins⟩, fun _ => rfl⟩

/-- A cell that has ended changes nothing in what is known of the cells around it. -/
theorem Tells.cell {cells : List Bool} {front : List Item} (tells : Tells cells front)
    {start stop : Item} {inside : List Item} (spans : Spans start inside stop) :
    Tells cells (front ++ start :: (inside ++ [stop])) := by
  cases tells with
  | outside none => exact .outside (none.append spans.closed_cell.noneOpen)
  | inside outer opens closed has =>
    rw [List.append_assoc, List.cons_append]
    exact .inside outer opens ((closed.append_iff _).mpr spans.closed_cell)
      (has.trans (hasParagraph_append_cell closed spans).symm)

theorem Tells.closing {cells : List Bool} {before : List Item} (tells : Tells cells before)
    {item : Item} (closes : Edge.ofItem? item = some ⟨cellName, .closing⟩) :
    Tells cells.tail (before ++ [item]) := by
  cases tells with
  | outside none => exact .outside (none.append (noneOpen_closing closes))
  | inside outer opens closed _ =>
    rw [List.append_assoc, List.cons_append]
    exact outer.cell ⟨opens, closed, closes⟩

/-- A repair that knows the cells in front of an item knows them behind it. -/
theorem Tells.step {repair : Repair} {before : List Item} (tells : Tells repair.cells before)
    (item : Item) : Tells (repair.step item).cells (before ++ [item]) := by
  have cellOther : cellName ≠ paragraphName := by decide
  cases found : Edge.ofItem? item with
  | none =>
    simp only [Repair.step, found]
    exact tells.quiet (quiet_of_ne (by simp [found]) (by simp [found]))
      (by simp [BeginsParagraph, found])
  | some edge =>
    obtain ⟨name, side⟩ := edge
    by_cases cell : name = cellName
    · subst cell
      cases side with
      | opening =>
        simp only [Repair.step, found, if_true]
        exact .inside tells found closed_nil
          (iff_of_false Bool.false_ne_true not_hasParagraph_nil)
      | closing =>
        simp only [Repair.step, found, if_true]
        exact tells.closing found
      | empty =>
        simp only [Repair.step, found, if_true]
        exact tells.quiet (quiet_of_ne (by simp [found]) (by simp [found]))
          (by simp [BeginsParagraph, found, cellOther])
    · simp only [Repair.step, found, if_neg cell]
      have quiet : Quiet item := quiet_of_ne (by simp [found, cell]) (by simp [found, cell])
      by_cases begins : name = paragraphName ∧ side ≠ .closing
      · rw [if_pos begins]
        obtain ⟨rfl, starts⟩ := begins
        exact tells.paragraph ⟨side, starts, found⟩
      · rw [if_neg begins]
        refine tells.quiet quiet ?_
        rintro ⟨other, starts, same⟩
        cases found.symm.trans same
        exact begins ⟨rfl, starts⟩

/-- The repair writes the items with a paragraph in front of the end of every cell without one. -/
theorem exists_filled_foldl (items : List Item) {before : List Item} {repair : Repair}
    (tells : Tells repair.cells before) :
    ∃ filled, Filled before items filled ∧
      (items.foldl Repair.step repair).pieces.reverse.flatten =
        repair.pieces.reverse.flatten ++ Item.spell filled := by
  induction items generalizing before repair with
  | nil => exact ⟨[], .nil before, by simp [Item.spell]⟩
  | cons item rest ih =>
    obtain ⟨filled, later, spelled⟩ := ih (tells.step item)
    rw [List.foldl_cons, spelled]
    by_cases lacks : repair.Lacks item
    · refine ⟨_, .fill ((tells.lacks_iff item).mp lacks) later, ?_⟩
      simp [Repair.step_of_lacks lacks, Item.spell, Item.raw]
    · refine ⟨_, .copy (mt (tells.lacks_iff item).mpr lacks) later, ?_⟩
      simp [Repair.step_pieces lacks, Item.spell]

theorem Lacking.exists_markup {before : List Item} {item : Item} (lacking : Lacking before item) :
    ∃ raw, item = .markup raw := by
  obtain ⟨_, _, _, _, spans, _⟩ := lacking
  cases item with
  | markup raw => exact ⟨raw, rfl⟩
  | text raw => cases spans.closes

theorem Filled.mended {before items filled : List Item} (fills : Filled before items filled) :
    Mended items filled := by
  induction fills with
  | nil => exact .nil
  | copy _ _ ih => exact ih.copy _
  | fill lacking _ ih =>
    obtain ⟨raw, rfl⟩ := lacking.exists_markup
    exact ih.fill raw

theorem filled_repairAll (source : Text) :
    Filled [] (Item.scan source) (Item.scan (repairAll source)) := by
  obtain ⟨filled, fills, spelled⟩ := exists_filled_foldl (Item.scan source) tells_start
  have written : repairAll source = Item.spell filled := by
    rw [repairAll, spelled]
    rfl
  rwa [written, fills.mended.scan_spell]

theorem Filled.length_le {before items filled : List Item} (fills : Filled before items filled) :
    items.length ≤ filled.length := by
  induction fills with
  | nil => simp
  | copy _ _ ih => simpa using ih
  | fill _ _ ih =>
    simp only [List.length_cons]
    omega

/-- Where nothing is filled in, nothing lacks. -/
theorem Filled.not_lacking {before items filled : List Item} (fills : Filled before items filled)
    (same : filled.length = items.length) {front back : List Item} {item : Item}
    (split : items = front ++ item :: back) : ¬ Lacking (before ++ front) item := by
  induction fills generalizing front with
  | nil => simp at split
  | copy fits _ ih =>
    cases front with
    | nil =>
      cases split
      rwa [List.append_nil]
    | cons first front =>
      cases split
      simpa using ih (by simpa using same) rfl
  | fill _ later =>
    have longer := later.length_le
    simp only [List.length_cons] at same
    omega

/-- Items among which no cell begins are left alone. -/
theorem Filled.eq_of_no_start {before items filled : List Item}
    (fills : Filled before items filled)
    (none : ∀ item ∈ before ++ items, Edge.ofItem? item ≠ some ⟨cellName, .opening⟩) :
    filled = items := by
  induction fills with
  | nil => rfl
  | copy _ _ ih => rw [ih (by simpa using none)]
  | fill lacking _ _ =>
    obtain ⟨front, start, inside, rfl, spans, _⟩ := lacking
    exact absurd spans.opens (none start (by simp))

/-- A part in which a cell begins mentions cells. -/
theorem occurs_of_opening {source : Text} {item : Item} (found : item ∈ Item.scan source)
    (opens : Edge.ofItem? item = some ⟨cellName, .opening⟩) :
    Text.occurs ('<' :: cellName) source = true := by
  cases item with
  | text raw => cases opens
  | markup raw =>
    obtain ⟨tail, rfl⟩ := Edge.exists_of_ofMarkup?_eq_opening opens
    obtain ⟨front, back, split⟩ := List.append_of_mem found
    have spelled := Item.spell_scan source
    rw [split, Item.spell_append, Item.spell, Item.spell, List.flatMap_cons, Item.raw] at spelled
    rw [← spelled, List.append_assoc, ← List.append_assoc]
    exact Text.occurs_append _ _ _

/-- A part that mentions no cell may be left alone. -/
theorem repair_eq_repairAll (source : Text) : repair source = repairAll source := by
  cases mentioned : Text.occurs ('<' :: cellName) source with
  | true => rw [repair, if_pos mentioned]
  | false =>
    rw [repair, if_neg (by simp [mentioned])]
    have same := (filled_repairAll source).eq_of_no_start fun item found opens => by
      rw [List.nil_append] at found
      rw [occurs_of_opening found opens] at mentioned
      cases mentioned
    rw [← Item.spell_scan (repairAll source), same, Item.spell_scan]

/-- The repair of cells in any part: the items of the part are left as they are, with an empty
paragraph in front of the end of every cell that has none. A cell that has a paragraph gets none,
afterwards every cell has one, a second repair changes nothing, the text of the part stays, and a
part that mentions no cell would be left alone in any case. -/
theorem minimal_repair (source : Text) :
    Filled [] (Item.scan source) (Item.scan (repair source)) ∧
      (∀ front start inside stop back,
        Item.scan source = front ++ start :: (inside ++ stop :: back) →
          Spans start inside stop → HasParagraph inside →
            ¬ Lacking (front ++ start :: inside) stop) ∧
      (∀ front start inside stop back,
        Item.scan (repair source) = front ++ start :: (inside ++ stop :: back) →
          Spans start inside stop → HasParagraph inside) ∧
      repair (repair source) = repair source ∧
      PlainText.ofPart (repair source) = PlainText.ofPart source ∧
      repair source = repairAll source := by
  have fills := filled_repairAll source
  have again := filled_repairAll (repairAll source)
  rw [repairAll_repairAll] at again
  simp only [repair_eq_repairAll]
  refine ⟨fills, ?_, ?_, repairAll_repairAll source, ?_, trivial⟩
  · rintro front start inside stop back _ spans has ⟨other, first, between, split, within, without⟩
    obtain ⟨_, rfl⟩ := span_unique split spans.opens within.opens spans.closed within.closed
    exact without has
  · intro front start inside stop back split spans
    by_contra without
    refine again.not_lacking rfl (split.trans (List.append_assoc front (start :: inside) _).symm) ?_
    exact ⟨front, start, inside, rfl, spans, without⟩
  · rw [PlainText.ofPart, fills.mended.foldl_eq, PlainText.ofPart]

example : repair "</w:tc><w:tc><w:tc><w:p></w:p></w:tc></w:tc><!--<w:tc></w:tc>".toList =
    "</w:tc><w:tc><w:tc><w:p></w:p></w:tc><w:p/></w:tc><!--<w:tc></w:tc>".toList := by
  decide +kernel

end Cell

end WordMerge
