import WordMerge.Proofs.Markup.ShownText
import WordMerge.Proofs.Template.Lossless
import WordMerge.Proofs.Template.WidenedOrder

namespace WordMerge

/-- Whether a text holds no brace, so that no tag begins or ends in it. -/
def Text.BraceFree (s : Text) : Prop :=
  ∀ c ∈ s, c ≠ '\x7b' ∧ c ≠ '\x7d'

instance (s : Text) : Decidable s.BraceFree :=
  List.decidableBAll _ s

namespace Text

@[simp] theorem braceFree_nil : BraceFree [] := nofun

@[simp] theorem braceFree_cons {c : Char} {s : Text} :
    BraceFree (c :: s) ↔ (c ≠ '\x7b' ∧ c ≠ '\x7d') ∧ BraceFree s :=
  List.forall_mem_cons

@[simp] theorem braceFree_append {a b : Text} :
    BraceFree (a ++ b) ↔ BraceFree a ∧ BraceFree b :=
  List.forall_mem_append

@[simp] theorem braceFree_reverse {s : Text} : BraceFree s.reverse ↔ BraceFree s := by
  simp [BraceFree]

theorem BraceFree.of_subset {a b : Text} (free : BraceFree b) (inside : a ⊆ b) : BraceFree a :=
  fun c member => free c (inside member)

end Text

namespace Item

/-- What stands in text elements stands in the part. -/
theorem stream_subset_spell (inside : Bool) (items : List Item) :
    stream inside items ⊆ spell items := by
  induction items generalizing inside with
  | nil => exact List.Subset.refl _
  | cons item rest ih =>
    rw [spell, List.flatMap_cons]
    cases item with
    | markup raw => exact List.subset_append_of_subset_right _ (ih _)
    | text raw =>
      rw [stream]
      split
      · exact List.append_subset.mpr
          ⟨List.subset_append_left _ _, List.subset_append_of_subset_right _ (ih _)⟩
      · exact List.subset_append_of_subset_right _ (ih _)

theorem raw_ne_nil_of_mem_scan {s : Text} : ∀ item ∈ scan s, item.raw ≠ [] := by
  intro item member
  rcases mem_scan_cases member with ⟨raw, rfl, opened, _⟩ | ⟨raw, rfl, filled, _⟩
  · intro empty
    cases opened.symm.trans (congrArg List.head? empty)
  · exact filled

/-- The characters in the text elements of both rows come one after the other. -/
theorem stream_join (inside : Bool) (a b : List Item) :
    stream inside (join a b) = stream inside a ++ stream (a.foldl insideAfter inside) b := by
  rw [← stream_append]
  induction a generalizing inside with
  | nil => rfl
  | cons item a ih =>
    cases a with
    | cons next a =>
      rw [join_cons item (by simp), List.cons_append]
      cases item <;> simp only [stream, ih]
    | nil =>
      cases item with
      | markup raw => rfl
      | text raw =>
        rcases b with _ | ⟨_ | more, b⟩
        · rfl
        · rfl
        · cases inside <;> simp [join, glue, stream]

theorem stream_scan_append {a : Text} (whole : Text.Whole a) (inside : Bool) (b : Text) :
    stream inside (scan (a ++ b)) =
      stream inside (scan a) ++ stream ((scan a).foldl insideAfter inside) (scan b) := by
  rw [scan_append whole, stream_join]

/-- The extraction of the text goes inside and outside of text elements where the stream does. -/
theorem inText_foldl_step (items : List Item) (p : PlainText) :
    (items.foldl PlainText.step p).inText = items.foldl insideAfter p.inText := by
  induction items generalizing p with
  | nil => rfl
  | cons item rest ih =>
    rw [List.foldl_cons, List.foldl_cons, ih]
    congr 1
    cases item with
    | markup raw =>
      rw [PlainText.step, insideAfter]
      cases Landmark.ofMarkup raw <;> rfl
    | text raw =>
      rw [PlainText.step, insideAfter]
      split <;> rfl

/-- An extraction is inside a text element exactly where one is open. -/
theorem inside_of_walk {items : List Item} {opened after : List Text}
    (walked : Edge.walk opened (items.filterMap Edge.ofItem?) = some after)
    (innermost : TextInnermost opened) :
    items.foldl insideAfter (decide (opened.head? = some textName)) =
      decide (after.head? = some textName) := by
  have same := PlainText.inText_of_walk (p := ⟨[], decide (opened.head? = some textName)⟩) walked
    innermost (by simp)
  rw [inText_foldl_step] at same
  rw [Bool.eq_iff_iff, same, decide_eq_true_iff]

end Item

namespace Piece

/-- Pieces whose character data holds no brace where it stands in a text element. -/
def Settled (pieces : Array Piece) : Prop :=
  ∀ opened xml, Stands pieces opened xml → opened.head? = some textName → '<' ∉ xml →
    xml.BraceFree

/-- XML without braces in text elements can be added. -/
theorem Settled.push {Q : Text → Prop} {pieces : Array Piece} {opened : List Text}
    (settled : Settled pieces) (laid : Laid Q pieces opened) {xml : Text}
    (free : opened.head? = some textName → '<' ∉ xml → xml.BraceFree) :
    Settled (pieces.push (.verbatim xml)) := by
  rintro around raw ⟨place, found, rfl⟩ inside plain
  rw [Array.getElem?_push] at found
  split at found
  · next last =>
    cases found
    rw [last, edgeRows_push, Edge.openedAt_append (by simp), ← length_edgeRows,
      Edge.openedAt_length laid.walked] at inside
    exact free inside plain
  · obtain ⟨bound, _⟩ := Array.getElem?_eq_some_iff.mp found
    rw [edgeRows_push, Edge.openedAt_append (by simp; omega)] at inside
    exact settled _ raw ⟨place, found, rfl⟩ inside plain

/-- A finished tag leaves no brace behind. -/
theorem Settled.finished {pieces : Array Piece} (settled : Settled pieces)
    {pending : PendingTag} (slot : pieces[pending.slot]? = some (.verbatim []))
    (start : ∀ place, pending.textStart = some place → StartsText pieces place) (tag : PlacedTag) :
    Settled (Reading.finished pieces pending tag) := by
  rintro around xml ⟨place, found, rfl⟩ inside plain
  rw [Reading.edgeRows_finished slot start tag] at inside
  rcases Reading.finished_cases slot start tag place with
    ⟨_, new⟩ | ⟨raw, starts, _, new⟩ | ⟨_, new⟩
  · cases new.symm.trans found
  · cases new.symm.trans found
    exact absurd (List.mem_of_mem_head? starts.preserve.cut.opened) plain
  · exact settled _ xml ⟨place, new.symm.trans found, rfl⟩ inside plain

end Piece

namespace Reading

/-- A reading with everything in its place and no brace left in its text elements. -/
structure Settles (r : Reading) (opened : List Text) : Prop where
  placed : InPlace (fun _ => True) r opened
  settled : Piece.Settled r.pieces

theorem Settles.plain {r : Reading} {opened : List Text} (settles : r.Settles opened) {xml : Text}
    (plain : '<' ∉ xml) (free : xml.BraceFree) : (r.plain xml).Settles opened := by
  refine ⟨settles.placed.plain plain trivial, ?_⟩
  have pushed : Piece.Settled (r.pieces.push (.verbatim xml)) :=
    settles.settled.push settles.placed.laid fun _ _ => free
  rcases r.plain_cases xml with ⟨_, same⟩ | same | ⟨number, same⟩
  · rw [same]
    exact settles.settled
  · rw [same]
    exact pushed
  · rw [same]
    exact pushed

theorem Settles.beginTag {r : Reading} {opened : List Text} (settles : r.Settles opened)
    (inside : opened.head? = some textName) : r.beginTag.Settles opened :=
  ⟨settles.placed.beginTag trivial inside,
    settles.settled.push settles.placed.laid fun _ _ => Text.braceFree_nil⟩

theorem Settles.finishTag {r : Reading} {opened : List Text} (settles : r.Settles opened)
    {pending : PendingTag} (under : r.pending = some pending) :
    Settles ({ r with pending := none }.finishTag pending) opened := by
  obtain ⟨slot, _⟩ := settles.placed.text.slot pending under
  have start := settles.placed.text.starts.brace pending under
  refine ⟨settles.placed.finishTag under, ?_⟩
  rcases { r with pending := none }.finishTag_cases pending with
    ⟨fault, same⟩ | ⟨tag, _, _, same⟩
  · rw [same]
    exact settles.settled
  · rw [same]
    exact settles.settled.finished slot start tag

/-- Character data without faults leaves no brace: what is held back has none so far. -/
theorem Settles.passes {r final : Reading} {opened : List Text} (settles : r.Settles opened)
    (inside : opened.head? = some textName) {before rest : Text}
    (passes : r.Passes before rest final) (plain : '<' ∉ before) (plainRest : '<' ∉ rest)
    (free : before.BraceFree) (clean : final.faults = []) : final.Settles opened := by
  induction passes with
  | settle _ => exact settles.plain (by simpa using plain) (by simpa using free)
  | wait _ => exact settles
  | @first r before rest _ _ _ ih =>
    have flushed : (r.plain before.reverse).Settles opened :=
      settles.plain (by simpa using plain) (by simpa using free)
    exact ih (flushed.beginTag inside) (by simp) (List.not_mem_of_not_mem_cons plainRest) (by simp)
      clean
  | again under later _ =>
    rw [later.idle_of_begun clean] at under
    cases under
  | finish under _ ih =>
    exact ih (settles.finishTag under) (by simp) (List.not_mem_of_not_mem_cons plainRest) (by simp)
      clean
  | unopened _ later _ => exact absurd clean later.not_reported
  | extend under _ _ _ ih =>
    exact ih ⟨settles.placed.extend under _, settles.settled⟩ (by simp)
      (List.not_mem_of_not_mem_cons plainRest) (by simp) clean
  | hold _ opens closes _ ih =>
    rw [List.mem_cons, not_or] at plainRest
    exact ih settles (by simpa using ⟨plainRest.1, plain⟩) plainRest.2
      (Text.braceFree_cons.mpr ⟨⟨opens, closes⟩, free⟩) clean

/-- Passing an item without a fault leaves no brace in the text elements. -/
theorem Settles.step {r : Reading} {opened after : List Text} (settles : r.Settles opened)
    {item : Item} (fits : Fits (fun _ => True) item)
    (passed : Edge.walk opened ([item].filterMap Edge.ofItem?) = some after)
    (clean : (r.step item).faults = []) : (r.step item).Settles after := by
  have placed : InPlace (fun _ => True) ([item].foldl Reading.step r) after :=
    settles.placed.foldl_step Text.divides_true (List.forall_mem_singleton.mpr fits) passed
  refine ⟨placed, ?_⟩
  cases item with
  | markup raw =>
    rw [Reading.step, markup_pieces]
    exact settles.settled.push settles.placed.laid fun _ plain =>
      absurd (List.mem_of_mem_head? fits.opened) plain
  | text raw =>
    unfold Reading.step at clean ⊢
    dsimp only at clean ⊢
    split
    · next inText =>
      rw [if_pos inText] at clean
      exact (settles.passes (settles.placed.text.inText.mp inText) (r.passes_characters [] raw)
        (by simp) fits.1 (by simp) clean).settled
    · next outside =>
      exact settles.settled.push settles.placed.laid fun inside =>
        absurd (settles.placed.text.inText.mpr inside) outside

theorem Settles.foldl_step {items : List Item} {r : Reading} {opened after : List Text}
    (settles : r.Settles opened) (fits : ∀ item ∈ items, Fits (fun _ => True) item)
    (passed : Edge.walk opened (items.filterMap Edge.ofItem?) = some after)
    (clean : (items.foldl Reading.step r).faults = []) :
    (items.foldl Reading.step r).Settles after := by
  induction items generalizing r opened with
  | nil =>
    cases passed
    exact settles
  | cons item rest ih =>
    rw [List.forall_mem_cons] at fits
    rw [← List.singleton_append, List.filterMap_append, Edge.walk_append_eq_some] at passed
    obtain ⟨between, here, later⟩ := passed
    have kept := foldl_step_faults_suffix (r.step item) rest
    rw [List.foldl_cons] at clean
    rw [clean, List.suffix_nil] at kept
    exact ih (settles.step fits.1 here kept) fits.2 later clean

/-- Items that were copied one by one, without a fault. -/
structure Copied (r : Reading) (items : List Item) : Prop where
  pieces : r.pieces.toList = items.map fun item => .verbatim item.raw
  faults : r.faults = []
  pending : r.pending = none

theorem characters_of_braceFree {r : Reading} (idle : r.pending = none) {before rest : Text}
    (free : rest.BraceFree) :
    r.characters before rest = r.plain (before.reverse ++ rest) := by
  induction rest generalizing before with
  | nil => simp [characters, idle]
  | cons c rest ih =>
    obtain ⟨⟨opens, closes⟩, free⟩ := Text.braceFree_cons.mp free
    simp [characters, idle, opens, closes, ih free]

/-- Character data without braces is copied. -/
theorem Copied.characters {r : Reading} {items : List Item} (copied : r.Copied items) {raw : Text}
    (filled : raw ≠ []) (free : raw.BraceFree) :
    (r.characters [] raw).Copied (items ++ [.text raw]) := by
  obtain ⟨pieces, faults, pending⟩ := copied
  rw [characters_of_braceFree pending free, List.reverse_nil, List.nil_append]
  refine ⟨?_, by rw [plain_faults, faults], by rw [plain_pending, pending]⟩
  rcases r.plain_cases raw with ⟨empty, _⟩ | same | ⟨number, same⟩
  · exact absurd empty filled
  · simp [same, push, pieces, Item.raw]
  · simp [same, push, pieces, Item.raw]

/-- Markup is copied. -/
theorem Copied.markup {r : Reading} {items : List Item} (copied : r.Copied items) (raw : Text) :
    (r.markup raw).Copied (items ++ [.markup raw]) := by
  obtain ⟨pieces, faults, pending⟩ := copied
  have closed : r.closeParagraph.faults = [] := by
    rw [closeParagraph_faults, abandon_of_pending pending, faults]
  have clean : (r.markup raw).faults = [] := by
    unfold Reading.markup
    cases Landmark.ofMarkup raw with
    | paragraphEnd => exact closed
    | rowEnd => simp only [enter, push, closeRow]; split <;> exact faults
    | _ => exact faults
  exact ⟨by simp [markup_pieces, pieces, Item.raw], clean, by rw [markup_pending clean, pending]⟩

/-- Character data without braces is copied, and so is all markup. -/
theorem Copied.step {r : Reading} {items : List Item} (copied : r.Copied items) {item : Item}
    (filled : item.raw ≠ []) (free : (Item.stream r.textStart.isSome [item]).BraceFree) :
    (r.step item).Copied (items ++ [item]) := by
  cases item with
  | markup raw => exact copied.markup raw
  | text raw =>
    unfold Reading.step
    dsimp only
    split
    · next inside =>
      rw [inside, Item.stream, if_pos rfl, Item.stream, List.append_nil] at free
      exact copied.characters filled free
    · obtain ⟨pieces, faults, pending⟩ := copied
      exact ⟨by simp [push, pieces, Item.raw], faults, pending⟩

/-- Items without braces in their text elements are copied, one after the other. -/
theorem Copied.foldl_step {past items : List Item} {r : Reading} (copied : r.Copied past)
    (filled : ∀ item ∈ items, item.raw ≠ [])
    (free : (Item.stream r.textStart.isSome items).BraceFree) :
    (items.foldl Reading.step r).Copied (past ++ items) := by
  induction items generalizing r past with
  | nil => simpa using copied
  | cons item rest ih =>
    rw [List.forall_mem_cons] at filled
    rw [← List.singleton_append, Item.stream_append, Text.braceFree_append] at free
    have later := free.2
    rw [List.foldl_cons, List.foldl_nil, ← step_inside] at later
    rw [List.foldl_cons, ← List.singleton_append, ← List.append_assoc]
    exact ih (copied.step filled.1 free.1) filled.2 later

end Reading

/-- The pieces of a part without faults hold no brace in text elements. -/
theorem Layout.settled_of_part {source : Text} (formed : WellFormed source)
    (textOnly : TextOnly source) (clean : (Layout.ofPart source).faults = []) :
    Piece.Settled (Layout.ofPart source).pieces := by
  have ended : ((Item.scan source).foldl Reading.step {}).abandon.faults = [] :=
    List.reverse_eq_nil_iff.mp clean
  have kept := Reading.abandon_faults_suffix ((Item.scan source).foldl Reading.step {})
  rw [ended, List.suffix_nil] at kept
  have start : Reading.Settles {} [] :=
    ⟨Reading.inPlace_start _, by rintro _ _ ⟨place, found, _⟩; simp at found⟩
  have settles := start.foldl_step (formed.fits fun _ _ => trivial) (formed.walk_eq textOnly) kept
  rw [Layout.ofPart, Reading.layout, Reading.abandon_pieces]
  exact settles.settled

/-- A part without braces in its text elements is taken to its items. -/
theorem Layout.copied_of_braceFree {source : Text}
    (free : (Item.stream false (Item.scan source)).BraceFree) :
    (Layout.ofPart source).pieces.toList = ((Item.scan source).map Item.raw).map .verbatim ∧
      (Layout.ofPart source).faults = [] := by
  have start : Reading.Copied {} [] := ⟨rfl, rfl, rfl⟩
  obtain ⟨pieces, faults, pending⟩ := start.foldl_step Item.raw_ne_nil_of_mem_scan free
  rw [Layout.ofPart, Reading.abandon_of_pending pending]
  refine ⟨?_, List.reverse_eq_nil_iff.mpr faults⟩
  rw [List.map_map]
  exact pieces

end WordMerge
