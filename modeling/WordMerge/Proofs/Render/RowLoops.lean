import WordMerge.Proofs.Render.Repetition
import WordMerge.Proofs.Template.Arrivals
import WordMerge.Proofs.Template.Pairing
import WordMerge.Proofs.Template.Rows

namespace WordMerge

/-- A row with a section whose tags stand in two of its cells. Values stand anywhere; every other
section is in one paragraph and one cell, and can be repeated. -/
structure RowLoop (source : Text) (before inside after : List Piece) (opening closing : PlacedTag) :
    Prop where
  row : IsRow source
  pieces : (Layout.ofPart source).pieces.toList =
    before ++ .tag opening :: (inside ++ .tag closing :: after)
  opens : opening.kind = .opening
  closes : closing.kind = .closing
  name : closing.name = opening.name
  inRow : opening.row = some 0 ∧ closing.row = some 0
  apart : opening.cell ≠ closing.cell
  others : Piece.Paired (fun s t => s.paragraph = t.paragraph ∧ s.cell = t.cell)
    (before ++ (inside ++ after))
  between : Piece.Paired (fun _ _ => True) inside
  balanced : ∃ edges, Piece.WellNested (Nesting.depthLimit - 1) (before ++ (inside ++ after)) edges

/-- If only one member of a row gives anything, the row gives what this member gives. -/
theorem flatMap_of_only {α β : Type} {l : List α} {f : α → List β} {a : α} (distinct : l.Nodup)
    (member : a ∈ l) (other : ∀ b ∈ l, b ≠ a → f b = []) : l.flatMap f = f a := by
  obtain ⟨front, back, rfl⟩ := List.append_of_mem member
  obtain ⟨-, tail, apart⟩ := List.nodup_append.mp distinct
  have before : front.flatMap f = [] := by
    refine List.flatMap_eq_nil_iff.mpr fun b inside => ?_
    exact other b (List.mem_append_left _ inside) (apart b inside a List.mem_cons_self)
  have behind : back.flatMap f = [] := by
    refine List.flatMap_eq_nil_iff.mpr fun b inside => ?_
    refine other b (List.mem_append_right _ (List.mem_cons_of_mem _ inside)) ?_
    rintro rfl
    exact (List.nodup_cons.mp tail).1 inside
  rw [List.flatMap_append, List.flatMap_cons, before, behind, List.nil_append, List.append_nil]

/-- What is added at the first and at the last place stands in front of all and behind all. -/
theorem flatMap_zipIdx_framed {α β : Type} {l : List α} (filled : l ≠ []) (a b : List β)
    (f : α × Nat → List β) :
    (l.zipIdx.flatMap fun entry => (if entry.2 = 0 then a else []) ++ f entry ++
        if entry.2 = l.length - 1 then b else []) = a ++ l.zipIdx.flatMap f ++ b := by
  have front (g : α × Nat → List β) :
      (l.zipIdx.flatMap fun entry => (if entry.2 = 0 then a else []) ++ g entry) =
        a ++ l.zipIdx.flatMap g := by
    obtain ⟨first, rest, rfl⟩ := List.exists_cons_of_ne_nil filled
    have later : ((rest.zipIdx 1).flatMap fun entry => (if entry.2 = 0 then a else []) ++ g entry) =
        (rest.zipIdx 1).flatMap g := by
      refine List.flatMap_congr fun entry member => ?_
      rw [if_neg (Nat.ne_of_gt (List.le_snd_of_mem_zipIdx member)), List.nil_append]
    rw [List.zipIdx_cons, List.flatMap_cons, Nat.zero_add, later, if_pos rfl, List.append_assoc,
      List.flatMap_cons]
  have back : (l.zipIdx.flatMap fun entry => f entry ++ if entry.2 = l.length - 1 then b else []) =
      l.zipIdx.flatMap f ++ b := by
    obtain ⟨init, last, rfl⟩ := (List.eq_nil_or_concat l).resolve_left filled
    have size : (init.concat last).length - 1 = init.length := by simp
    have earlier : (init.zipIdx.flatMap fun entry => f entry ++
        if entry.2 = init.length then b else []) = init.zipIdx.flatMap f := by
      refine List.flatMap_congr fun entry member => ?_
      have below := List.snd_lt_of_mem_zipIdx member
      rw [if_neg (by omega), List.append_nil]
    rw [size, List.concat_eq_append, List.zipIdx_append, List.flatMap_append, earlier,
      List.flatMap_append]
    simp
  simp only [List.append_assoc] at front ⊢
  rw [front fun entry => f entry ++ if entry.2 = l.length - 1 then b else [], back]

namespace RowLoop

variable {source : Text} {before inside after : List Piece} {opening closing : PlacedTag}

/-- The places of the tags of the loop. -/
def own (before inside : List Piece) : Nat × Nat :=
  (before.length, before.length + 1 + inside.length)

/-- The tags of the section stand at their places. -/
theorem getElem?_own (loop : RowLoop source before inside after opening closing) :
    (Layout.ofPart source).pieces[(own before inside).1]? = some (.tag opening) ∧
      (Layout.ofPart source).pieces[(own before inside).2]? = some (.tag closing) := by
  rw [← Array.getElem?_toList, ← Array.getElem?_toList, loop.pieces, own]
  constructor
  · simp
  · have later : before.length + 1 + inside.length - before.length = inside.length + 1 := by omega
    rw [List.getElem?_append_right (by omega), later, List.getElem?_cons_succ,
      List.getElem?_append_right (Nat.le_refl _), Nat.sub_self]
    rfl

/-- The section is widened to the whole row. -/
theorem widening_own (loop : RowLoop source before inside after opening closing)
    (options : RenderOptions) : (Layout.ofPart source).widening options (own before inside) =
      .row ⟨0, (Layout.ofPart source).pieces.size - 1, false⟩ := by
  obtain ⟨begins, ends⟩ := loop.getElem?_own
  obtain ⟨row, row'⟩ := loop.inRow
  have span : ClosedSpan.ofSpans? (Layout.ofPart source).rows opening.row =
      some ⟨0, (Layout.ofPart source).pieces.size - 1, false⟩ := by
    rw [ClosedSpan.ofSpans?_eq_some]
    exact ⟨0, _, row, Layout.rows_of_isRow loop.row, rfl, rfl, rfl⟩
  have both : opening.row.isSome ∧ opening.row = closing.row ∧ opening.cell ≠ closing.cell :=
    ⟨by rw [row]; rfl, by rw [row, row'], loop.apart⟩
  have widens : Widening.row? (Layout.ofPart source) opening closing =
      some ⟨0, (Layout.ofPart source).pieces.size - 1, false⟩ := by
    rw [Widening.row?, if_pos both, span]
  simp only [Layout.widening, Layout.tagAt?, begins, ends, Option.bind_some, Piece.tag?,
    Widening.ofTags, widens]

/-- The section is found, and all others are left where they stand. -/
theorem sections (loop : RowLoop source before inside after opening closing)
    (options : RenderOptions) : own before inside ∈ (Layout.ofPart source).sections ∧
      ∀ pair ∈ (Layout.ofPart source).sections, pair ≠ own before inside →
        (Layout.ofPart source).widening options pair = .inline := by
  have around := SectionPairs.ofPieces_around (by rw [loop.opens]; rfl) loop.closes loop.name
    loop.others loop.between
  rw [← loop.pieces] at around
  obtain ⟨member, others⟩ := around
  refine ⟨member, fun pair known different => ?_⟩
  obtain ⟨t, u, begins, ends, paragraph, cell⟩ := others pair known different
  rw [Array.getElem?_toList] at begins ends
  have row : Widening.row? (Layout.ofPart source) t u = none := by
    rw [Widening.row?, if_neg fun both => both.2.2 cell]
  have paragraphs : Widening.paragraphs? (Layout.ofPart source) t u = none := by
    rw [Widening.paragraphs?, if_pos paragraph]
  simp only [Layout.widening, Layout.tagAt?, begins, ends, Option.bind_some, Piece.tag?,
    Widening.ofTags, row, paragraphs, ite_self]

/-- The tags of the loop come out in front of the row and behind it, and everything else stays. -/
theorem arrivals (loop : RowLoop source before inside after opening closing)
    (options : RenderOptions) (place : Nat) : (Layout.ofPart source).arrivals options place =
      (if place = 0 then [(own before inside).1] else []) ++
        (if place = (own before inside).1 ∨ place = (own before inside).2 then [] else [place]) ++
        if place = (Layout.ofPart source).pieces.size - 1 then [(own before inside).2] else [] := by
  obtain ⟨member, inline⟩ := loop.sections options
  have widens := loop.widening_own options
  have distinct : (Layout.ofPart source).sections.Nodup := by
    have apart := SectionPairs.nodup_ofPieces (Layout.ofPart source).pieces.toList
    refine (List.nodup_flatMap.mp apart).2.imp fun disjoint same => disjoint List.mem_cons_self ?_
    rw [same]
    exact List.mem_cons_self
  have front := flatMap_of_only distinct member
    (f := fun pair => Plan.inFront pair place ((Layout.ofPart source).widening options pair))
    fun pair known different => by rw [inline pair known different, Plan.inFront]
  have back := flatMap_of_only (List.nodup_reverse.mpr distinct) (List.mem_reverse.mpr member)
    (f := fun pair => Plan.behind pair place ((Layout.ofPart source).widening options pair))
    fun pair known different => by
      rw [inline pair (List.mem_reverse.mp known) different]
      rfl
  have leaves : (Layout.ofPart source).Leaves options place ↔
      place = (own before inside).1 ∨ place = (own before inside).2 := by
    constructor
    · rintro ⟨pair, known, moves⟩
      by_cases same : pair = own before inside
      · subst same
        rw [widens] at moves
        rcases moves with moves | dropped
        · exact (List.mem_pair.mp moves).symm
        · exact dropped.elim
      · rw [inline pair known same] at moves
        rcases moves with moves | dropped
        · cases moves
        · exact dropped.elim
    · intro moves
      refine ⟨own before inside, member, .inl ?_⟩
      rw [widens]
      exact List.mem_pair.mpr moves.symm
  rw [Layout.arrivals, front, back, widens, Plan.inFront, Plan.behind]
  simp only [leaves]

/-- A stretch without the tags of the loop stays as it is. -/
theorem flatMap_stretch (own : Nat × Nat) (stretch : List Piece) (start : Nat)
    (apart : ∀ place, start ≤ place → place < start + stretch.length →
      ¬ (place = own.1 ∨ place = own.2)) :
    ((stretch.zipIdx start).flatMap fun entry =>
      if entry.2 = own.1 ∨ entry.2 = own.2 then [] else [entry.1]) = stretch := by
  have each : ((stretch.zipIdx start).flatMap fun entry =>
      if entry.2 = own.1 ∨ entry.2 = own.2 then [] else [entry.1]) =
        (stretch.zipIdx start).flatMap fun entry => [entry.1] := by
    refine List.flatMap_congr fun entry member => ?_
    rw [if_neg (apart entry.2 (List.le_snd_of_mem_zipIdx member)
      (List.snd_lt_add_of_mem_zipIdx member))]
  rw [each, ← List.map_eq_flatMap, List.zipIdx_map_fst]

/-- The tags of the loop come to stand around the row without them. -/
theorem widened (loop : RowLoop source before inside after opening closing)
    (options : RenderOptions) : (Layout.ofPart source).widened options =
      .tag opening :: ((before ++ (inside ++ after)) ++ [.tag closing]) := by
  obtain ⟨begins, ends⟩ := loop.getElem?_own
  have filled : (Layout.ofPart source).pieces.toList ≠ [] := by
    rw [loop.pieces]
    simp
  have each : (Layout.ofPart source).widened options =
      (Layout.ofPart source).pieces.toList.zipIdx.flatMap fun entry =>
        (if entry.2 = 0 then [.tag opening] else []) ++
          (if entry.2 = (own before inside).1 ∨ entry.2 = (own before inside).2 then []
            else [entry.1]) ++
          if entry.2 = (Layout.ofPart source).pieces.toList.length - 1 then [.tag closing]
            else [] := by
    rw [(Layout.noted_ofPart source).widened_eq_flatMap]
    refine List.flatMap_congr fun entry member => ?_
    rw [List.mem_zipIdx_iff_getElem?, Array.getElem?_toList] at member
    rw [loop.arrivals, List.filterMap_append, List.filterMap_append, Array.length_toList]
    congr 1
    · congr 1
      · split <;> simp [begins]
      · split <;> simp [member]
    · split <;> simp [ends]
  have middle : ((Layout.ofPart source).pieces.toList.zipIdx.flatMap fun entry =>
      if entry.2 = (own before inside).1 ∨ entry.2 = (own before inside).2 then []
        else [entry.1]) = before ++ (inside ++ after) := by
    have front := flatMap_stretch (own before inside) before 0 fun place _ below => by
      rw [own]
      omega
    have between := flatMap_stretch (own before inside) inside (before.length + 1)
      fun place above below => by
        rw [own]
        omega
    have behind := flatMap_stretch (own before inside) after
      (before.length + 1 + inside.length + 1) fun place above _ => by
        rw [own]
        omega
    rw [loop.pieces, List.zipIdx_append, List.zipIdx_cons, List.zipIdx_append, List.zipIdx_cons,
      List.flatMap_append, List.flatMap_cons, List.flatMap_append, List.flatMap_cons, Nat.zero_add,
      front, between, behind, if_pos (.inl rfl), if_pos (.inr rfl), List.nil_append,
      List.nil_append]
  rw [each, flatMap_zipIdx_framed filled, middle]
  simp

end RowLoop

/-- A row loop repeats the row. For every list, also an empty one, the row is what it gives without
the tags of the loop, evaluated with one item after the other, and what is wrong with it is what is
wrong with each of them. -/
theorem renderPart_of_rowLoop {source : Text} {before inside after : List Piece}
    {opening closing : PlacedTag} (loop : RowLoop source before inside after opening closing)
    {data : Value} {items : List Value}
    (list : Scope.lookup? [data] opening.name = some (.list items)) (options : RenderOptions) :
    let row := Nesting.ofPieces (before ++ (inside ++ after))
    row.allFaults = [] ∧ ((Layout.ofPart source).nesting options).allFaults = [] ∧
      renderPart source data options =
        outcome (Node.eachXml options.linebreaks [data] items row.nodes)
          ((Layout.ofPart source).faults ++
            Node.eachFaults options.linebreaks [data] items row.nodes) := by
  intro row
  obtain ⟨edges, balanced⟩ := loop.balanced
  obtain ⟨nodes, sound, spells, -⟩ := balanced.exists_tree
  have deep := Node.depthAll_le_of_soundAll nodes sound
  have whole := Node.soundAll_of_depthAll_le nodes sound
    (deep.trans (Nat.sub_le Nesting.depthLimit 1))
  obtain ⟨tree, clean⟩ := Nesting.ofPieces_of_canonical whole spells
  have placed := Layout.inPlace_of_part Text.divides_true loop.row.formed loop.row.textOnly
    fun _ _ => trivial
  have even : Piece.passAll [] (before ++ (inside ++ after)) = some [] := by
    have all := placed.passAll_widened options
    rw [loop.widened, Piece.passAll_cons, Piece.pass_opening (by rw [loop.opens]; rfl),
      Option.bind_some, Piece.passAll_append] at all
    obtain ⟨behind, passed, last⟩ := Option.bind_eq_some_iff.mp all
    rw [Piece.passAll_cons, Piece.pass_section (by rw [loop.closes]; nofun), Option.bind_some,
      Piece.passAll_nil] at last
    rw [passed, last]
  obtain ⟨faultless, xml, faults⟩ := Layout.renderAll_over_whole (loop.widened options) loop.opens
    loop.closes loop.name sound spells even list
  refine ⟨clean, faultless, ?_⟩
  rw [renderPart_eq_outcome, faultless, xml, faults, List.append_nil, tree]

/-- A row of two cells with a section from one to the other, a value in front of it, and another
section in its second cell. -/
def twoCells : Text :=
  ("<w:tr><w:tc><w:p><w:t>\x7ba\x7d\x7b#i\x7d</w:t></w:p></w:tc>" ++
    "<w:tc><w:p><w:t>\x7b#c\x7d!\x7b/c\x7d\x7b/i\x7d</w:t></w:p></w:tc></w:tr>").toList

theorem wellFormed_of_finished {source : Text}
    (ends : ∀ raw ∈ Item.markups source, Item.finished raw = true)
    (nested : Edge.passAll [] (Edge.scan source) = some []) : WellFormed source :=
  ⟨Text.whole_iff.mpr ends, nested⟩

theorem isRow_twoCells : IsRow twoCells := by
  unfold twoCells
  -- spelled out, since a long string literal is slow to evaluate
  rewrite [String.toList_append, String.toList_ofList, String.toList_ofList]
  refine ⟨wellFormed_of_finished (by decide +kernel) (by decide +kernel), ?_, "<w:tr>".toList,
    ["<w:tc>", "<w:p>", "<w:t>", "\x7ba\x7d\x7b#i\x7d", "</w:t>", "</w:p>", "</w:tc>", "<w:tc>",
      "<w:p>", "<w:t>", "\x7b#c\x7d!\x7b/c\x7d\x7b/i\x7d", "</w:t>", "</w:p>",
      "</w:tc>"].flatMap String.toList,
    "</w:tr>".toList, by decide +kernel, Item.cut_of_scan (by decide +kernel) (by decide), by decide,
    Item.cut_of_scan (by decide +kernel) (by decide), by decide,
    wellFormed_of_finished (by decide +kernel) (by decide +kernel)⟩
  unfold TextOnly
  decide +kernel

/-- The pieces of some markup. -/
def markupPieces (raws : List String) : List Piece :=
  (raws.map String.toList).map .verbatim

/-- The start tag of a text element that keeps its white space. -/
def keptText : String := "<w:t xml:space=\"preserve\">"

theorem rowLoop_twoCells : RowLoop twoCells
    (markupPieces ["<w:tr>", "<w:tc>", "<w:p>", keptText] ++
      [.tag ⟨⟨.value, ['a']⟩, some 0, some 0, some 0⟩])
    (markupPieces ["</w:t>", "</w:p>", "</w:tc>", "<w:tc>", "<w:p>", keptText] ++
      [.tag ⟨⟨.opening, ['c']⟩, some 1, some 0, some 1⟩, .verbatim ['!'],
        .tag ⟨⟨.closing, ['c']⟩, some 1, some 0, some 1⟩])
    (markupPieces ["</w:t>", "</w:p>", "</w:tc>", "</w:tr>"])
    ⟨⟨.opening, ['i']⟩, some 0, some 0, some 0⟩ ⟨⟨.closing, ['i']⟩, some 1, some 0, some 1⟩ := by
  have inner {R : PlacedTag → PlacedTag → Prop} {rest : List Piece} (paired : Piece.Paired R rest)
      (related : R ⟨⟨.opening, ['c']⟩, some 1, some 0, some 1⟩
        ⟨⟨.closing, ['c']⟩, some 1, some 0, some 1⟩) :
      Piece.Paired R (.tag ⟨⟨.opening, ['c']⟩, some 1, some 0, some 1⟩ ::
        ([.verbatim ['!']] ++ .tag ⟨⟨.closing, ['c']⟩, some 1, some 0, some 1⟩ :: rest)) :=
    .block rfl rfl rfl related (.verbatim .nil) paired
  refine ⟨isRow_twoCells, ?_, rfl, rfl, rfl, ⟨rfl, rfl⟩, by decide, ?_, ?_, ?_⟩
  · unfold twoCells
    rewrite [String.toList_append, String.toList_ofList, String.toList_ofList]
    decide +kernel
  · rw [List.append_assoc, List.append_assoc]
    exact (Piece.Paired.value rfl
      ((inner (Piece.paired_of_xml _ _) ⟨rfl, rfl⟩).behind_xml _)).behind_xml _
  · exact (inner .nil trivial).behind_xml _
  · have block : ∃ edges, Piece.WellNested 255 (.tag ⟨⟨.opening, ['c']⟩, some 1, some 0, some 1⟩ ::
        ([.verbatim ['!']] ++ .tag ⟨⟨.closing, ['c']⟩, some 1, some 0, some 1⟩ ::
          markupPieces ["</w:t>", "</w:p>", "</w:tc>", "</w:tr>"])) edges :=
      ⟨_, .block rfl rfl rfl (.verbatim .nil) (by decide +kernel)
        (.verbatim (.verbatim (.verbatim (.verbatim .nil))))⟩
    obtain ⟨edges, nested⟩ := block
    exact ⟨_, .verbatim (.verbatim (.verbatim (.verbatim (.value rfl (.verbatim (.verbatim
      (.verbatim (.verbatim (.verbatim (.verbatim nested))))))))))⟩

/-- Two items, of which the second one says no. -/
def twoItems : Value :=
  .object [(['i'], .list [.object [(['a'], .string ['x']), (['c'], .bool true)],
    .object [(['a'], .string ['y']), (['c'], .bool false)]])]

theorem renderPart_of_rowLoop_twoCells :
    renderPart twoCells twoItems {} = .ok
      (("<w:tr><w:tc><w:p><w:t xml:space=\"preserve\">x</w:t></w:p></w:tc>" ++
        "<w:tc><w:p><w:t xml:space=\"preserve\">!</w:t></w:p></w:tc></w:tr>") ++
        ("<w:tr><w:tc><w:p><w:t xml:space=\"preserve\">y</w:t></w:p></w:tc>" ++
          "<w:tc><w:p><w:t xml:space=\"preserve\"></w:t></w:p></w:tc></w:tr>")).toList ∧
      renderPart twoCells (.object [(['i'], .list [])]) {} = .ok [] := by
  have full := (@renderPart_of_rowLoop _ _ _ _ _ _ rowLoop_twoCells twoItems _ rfl {}).2.2
  have none := (@renderPart_of_rowLoop _ _ _ _ _ _ rowLoop_twoCells
    (.object [(['i'], .list [])]) [] rfl {}).2.2
  rewrite [full, none, String.toList_append, String.toList_append, String.toList_append,
    String.toList_ofList, String.toList_ofList, String.toList_ofList, String.toList_ofList]
  constructor <;> decide +kernel

/-- A row with one paragraph around its two cells, and two sections from one cell to the other. -/
def crossedCells : Text :=
  ("<w:tr><w:p><w:tc><w:t>\x7b#a\x7d\x7b#i\x7d</w:t></w:tc>" ++
    "<w:tc><w:t>\x7b/i\x7d\x7b/a\x7d</w:t></w:tc></w:p></w:tr>").toList

/-- One item outside, and an empty list inside. -/
def emptiedItems : Value :=
  .object [(['i'], .list [.null]), (['a'], .list [.object [(['i'], .list [])]])]

theorem isRow_crossedCells : IsRow crossedCells := by
  unfold crossedCells
  rewrite [String.toList_append, String.toList_ofList, String.toList_ofList]
  refine ⟨wellFormed_of_finished (by decide +kernel) (by decide +kernel), ?_, "<w:tr>".toList,
    ["<w:p>", "<w:tc>", "<w:t>", "\x7b#a\x7d\x7b#i\x7d", "</w:t>", "</w:tc>", "<w:tc>", "<w:t>",
      "\x7b/i\x7d\x7b/a\x7d", "</w:t>", "</w:tc>", "</w:p>"].flatMap String.toList,
    "</w:tr>".toList, by decide +kernel,
    Item.cut_of_scan (by decide +kernel) (by decide), by decide,
    Item.cut_of_scan (by decide +kernel) (by decide), by decide,
    wellFormed_of_finished (by decide +kernel) (by decide +kernel)⟩
  unfold TextOnly
  decide +kernel

theorem ofPart_crossedCells :
    (SectionPairs.scan {} 0 (Layout.ofPart crossedCells).pieces.toList).pairs = [(4, 11), (5, 10)] ∧
      (Layout.ofPart crossedCells).pieces.toList =
        (markupPieces ["<w:tr>", "<w:p>", "<w:tc>", keptText] ++
          [.tag ⟨⟨.opening, ['a']⟩, some 0, some 0, some 0⟩]) ++
        .tag ⟨⟨.opening, ['i']⟩, some 0, some 0, some 0⟩ ::
          (markupPieces ["</w:t>", "</w:tc>", "<w:tc>", keptText] ++
            .tag ⟨⟨.closing, ['i']⟩, some 0, some 0, some 1⟩ ::
              (.tag ⟨⟨.closing, ['a']⟩, some 0, some 0, some 1⟩ ::
                markupPieces ["</w:t>", "</w:tc>", "</w:p>", "</w:tr>"])) := by
  unfold crossedCells
  rewrite [String.toList_append, String.toList_ofList, String.toList_ofList]
  decide +kernel

/-- A section in one paragraph but in two cells takes the row itself, and comes to stand around the
loop. -/
theorem not_renderPart_of_rowLoop_crossedCells :
    IsRow crossedCells ∧
    ∃ before inside after opening closing,
      (Layout.ofPart crossedCells).pieces.toList =
        before ++ .tag opening :: (inside ++ .tag closing :: after) ∧
      opening.kind = .opening ∧ closing.kind = .closing ∧ closing.name = opening.name ∧
      opening.row = some 0 ∧ closing.row = some 0 ∧ opening.cell ≠ closing.cell ∧
      Piece.Paired (fun s t => s.paragraph = some 0 ∧ t.paragraph = some 0)
        (before ++ (inside ++ after)) ∧
      Piece.Paired (fun _ _ => True) inside ∧
      (∃ edges, Piece.WellNested (Nesting.depthLimit - 1) (before ++ (inside ++ after)) edges) ∧
      Scope.lookup? [emptiedItems] opening.name = some (.list [.null]) ∧
      (Layout.ofPart crossedCells).faults = [] ∧
      renderPart crossedCells emptiedItems {} = .ok [] ∧
      renderPart crossedCells emptiedItems {} ≠
        outcome (Node.eachXml true [emptiedItems] [.null]
            (Nesting.ofPieces (before ++ (inside ++ after))).nodes)
          (Node.eachFaults true [emptiedItems] [.null]
            (Nesting.ofPieces (before ++ (inside ++ after))).nodes) := by
  obtain ⟨found, pieces⟩ := ofPart_crossedCells
  have pairs : SectionPairs.ofPieces (Layout.ofPart crossedCells).pieces.toList =
      [(4, 11), (5, 10)] := by
    rw [SectionPairs.ofPieces, found]
    exact List.mergeSort_of_pairwise (by decide)
  have rendered : renderPart crossedCells emptiedItems {} = .ok [] := by
    unfold renderPart Layout.nesting Layout.widened Layout.plan
    dsimp only
    rw [pairs]
    decide +kernel
  refine ⟨isRow_crossedCells, _, _, _, _, _, pieces, rfl, rfl, rfl, rfl, rfl, by decide, ?_,
    Piece.paired_of_xml _ _, ?_, rfl, by decide +kernel, rendered, ?_⟩
  · rw [List.append_assoc]
    refine Piece.Paired.behind_xml ?_ _
    exact .block rfl rfl rfl ⟨rfl, rfl⟩
      (Piece.paired_of_xml _ (["</w:t>", "</w:tc>", "<w:tc>", keptText].map String.toList))
      (Piece.paired_of_xml _ _)
  · have block : ∃ edges, Piece.WellNested 255 (.tag ⟨⟨.opening, ['a']⟩, some 0, some 0, some 0⟩ ::
        (markupPieces ["</w:t>", "</w:tc>", "<w:tc>", keptText] ++
          .tag ⟨⟨.closing, ['a']⟩, some 0, some 0, some 1⟩ ::
            markupPieces ["</w:t>", "</w:tc>", "</w:p>", "</w:tr>"])) edges :=
      ⟨_, .block rfl rfl rfl (.verbatim (.verbatim (.verbatim (.verbatim .nil))))
        (by decide +kernel) (.verbatim (.verbatim (.verbatim (.verbatim .nil))))⟩
    obtain ⟨edges, nested⟩ := block
    exact ⟨_, .verbatim (.verbatim (.verbatim (.verbatim nested)))⟩
  · rw [rendered]
    decide +kernel

end WordMerge
