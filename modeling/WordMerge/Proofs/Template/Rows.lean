import WordMerge.Proofs.Template.OpenRows
import WordMerge.Proofs.Template.Runs
import WordMerge.Proofs.Template.Spans
import WordMerge.Proofs.Template.Succession

namespace WordMerge

namespace Reading

/-- Nothing is open behind a well-formed part unless a tag is under way. -/
theorem resting_scan {source : Text} (formed : WellFormed source) (textOnly : TextOnly source)
    (free : ((Item.scan source).foldl step {}).pending = none) :
    ((Item.scan source).foldl step {}).Resting := by
  have placed := (inPlace_start fun _ => True).foldl_step Text.divides_true
    (formed.fits fun _ _ => trivial) (formed.walk_eq textOnly)
  obtain ⟨rows, cells⟩ := rows_cells_closed formed.nested
  refine ⟨?_, rows, cells, ?_, free⟩
  · exact List.forall₂_nil_right_iff.mp placed.spans.begun
  · have outside := placed.text.inText
    simpa using outside

/-- The numbers of rows that a reading has noted are those of its rows. -/
structure Numbered (r : Reading) : Prop where
  opened : ∀ id ∈ r.openRows, id < r.rows.size
  pending : ∀ tag, r.pending = some tag → ∀ id, tag.row = some id → id < r.rows.size
  tags : ∀ tag, .tag tag ∈ r.pieces.toList → ∀ id, tag.row = some id → id < r.rows.size

theorem Spanned.numbered {r : Reading} (spanned : r.Spanned) : r.Numbered where
  opened := spanned.rows.known
  pending tag under id around := by
    obtain ⟨span, found, -⟩ := (spanned.slot tag under).2.2.named id around
    exact (Array.getElem?_eq_some_iff.mp found).1
  tags tag member id around := by
    obtain ⟨place, here⟩ := List.mem_iff_getElem?.mp member
    rw [Array.getElem?_toList] at here
    obtain ⟨span, found, -⟩ := (spanned.tags place tag here).2.named id around
    exact (Array.getElem?_eq_some_iff.mp found).1

end Reading

/-- The numbers of rows that the tags of a part note are those of its rows. -/
theorem Layout.row_lt_size {source : Text} {place : Nat} {tag : PlacedTag} {id : Nat}
    (found : (ofPart source).pieces[place]? = some (.tag tag)) (around : tag.row = some id) :
    id < (ofPart source).rows.size := by
  have numbered : ((Item.scan source).foldl Reading.step {}).abandon.Numbered :=
    (Reading.spanned_foldl_step (Item.scan source)).abandon.numbered
  rw [← Array.getElem?_toList] at found
  exact numbered.tags tag (List.mem_of_getElem? found) id around

/-- A table row: a row tag, elements that nest among themselves, and the end tag. -/
structure IsRow (source : Text) : Prop where
  formed : WellFormed source
  textOnly : TextOnly source
  parts : ∃ start content stop, source = start ++ content ++ stop ∧
    Item.Cut start ∧ Edge.ofMarkup? start = some ⟨rowName, .opening⟩ ∧
    Item.Cut stop ∧ Edge.ofMarkup? stop = some ⟨rowName, .closing⟩ ∧ WellFormed content

/-- The first row of a part that is a row spans the part. -/
theorem Layout.rows_of_isRow {source : Text} (row : IsRow source) :
    (ofPart source).rows[0]? = some ⟨0, some ((ofPart source).pieces.size - 1), 0, false⟩ := by
  obtain ⟨start, content, stop, rfl, cutStart, opens, cutStop, closes, formed⟩ := row.parts
  have scanned : Item.scan (start ++ content ++ stop) =
      .markup start :: (Item.scan content ++ [.markup stop]) := by
    have border : ∀ c ∈ stop.head?, c = '<' := by
      rw [cutStop.opened]
      simp
    rw [List.append_assoc, Item.scan_cut cutStart, Item.scan_append_of_border formed.whole border,
      cutStop.scan_eq]
  have begun : Reading.markup {} start =
      { pieces := #[.verbatim start], rows := #[.beginAt 0], openRows := [0] } := by
    rw [Reading.markup, Landmark.ofMarkup, opens]
    rfl
  obtain ⟨⟨ids, openRows, levels, _⟩, _, spans, _⟩ :=
    (Reading.above_start (Reading.markup {} start)).foldl_step formed.nested
  have none : ids = [] := List.length_eq_zero_iff.mp levels
  have first := spans 0 (by rw [begun]; exact Nat.one_pos)
  rw [none, begun] at openRows
  rw [begun] at first
  unfold ofPart
  rw [scanned, List.foldl_cons, List.foldl_append, List.foldl_cons, List.foldl_nil,
    show Reading.step {} (.markup start) = Reading.markup {} start from rfl, begun]
  generalize (Item.scan content).foldl Reading.step _ = r at openRows first
  have ended : r.step (.markup stop) = { r with
      openRows := []
      rows := r.rows.modify 0 fun span => { span with stop := some r.pieces.size }
      pieces := r.pieces.push (.verbatim stop) } := by
    rw [Reading.step, Reading.markup, Landmark.ofMarkup, closes, Option.elim_some,
      show Landmark.ofEdge ⟨rowName, .closing⟩ = .rowEnd from rfl, Reading.enter, Reading.closeRow,
      openRows]
    rfl
  rw [ended, Reading.layout, (Reading.abandon_frame _).1, Reading.abandon_pieces]
  dsimp only
  have spanned : r.rows[0]? = some (.beginAt 0) := first
  rw [Array.getElem?_modify, if_pos rfl, spanned, Array.size_push, Nat.add_sub_cancel]
  rfl

end WordMerge
