import Mathlib.Data.List.Forall2
import WordMerge.Proofs.Template.Placement

namespace WordMerge

namespace Item

/-- Whether the place behind an item is inside a text element. -/
def insideAfter (inside : Bool) : Item → Bool
  | .markup raw =>
    match Landmark.ofMarkup raw with
    | .textStart => true
    | .textEnd => false
    | _ => inside
  | .text _ => inside

/-- The markup and the character data outside text elements. -/
def outline (inside : Bool) : List Item → List Item
  | [] => []
  | .markup raw :: rest => .markup raw :: outline (insideAfter inside (.markup raw)) rest
  | .text raw :: rest => if inside then outline inside rest else .text raw :: outline inside rest

/-- The character data inside text elements as one text. -/
def stream (inside : Bool) : List Item → Text
  | [] => []
  | .markup raw :: rest => stream (insideAfter inside (.markup raw)) rest
  | .text raw :: rest => if inside then raw ++ stream inside rest else stream inside rest

theorem outline_append (inside : Bool) (a b : List Item) :
    outline inside (a ++ b) = outline inside a ++ outline (a.foldl insideAfter inside) b := by
  induction a generalizing inside with
  | nil => rfl
  | cons item rest ih =>
    cases item with
    | markup raw => simp [outline, ih]
    | text raw => cases inside <;> simp [outline, ih, insideAfter]

/-- The stream of two rows is that of both, one after the other. -/
theorem stream_append (inside : Bool) (a b : List Item) :
    stream inside (a ++ b) = stream inside a ++ stream (a.foldl insideAfter inside) b := by
  induction a generalizing inside with
  | nil => rfl
  | cons item rest ih =>
    cases item with
    | markup raw => simp [stream, ih]
    | text raw => cases inside <;> simp [stream, ih, insideAfter]

/-- Behind an edge no text element is open that was not open before it and does not begin there. -/
theorem mem_of_insideAfter {opened next : List Text} {raw : Text} {edge : Edge} {inside : Bool}
    (found : Edge.ofMarkup? raw = some edge) (passed : Edge.pass opened edge = some next)
    (within : inside = true → textName ∈ opened)
    (last : insideAfter inside (.markup raw) = true) : textName ∈ next := by
  rw [insideAfter, Landmark.ofMarkup, found, Option.elim_some] at last
  have other (distinct : edge ≠ Edge.textOpening) : textName ∈ opened := by
    refine within ?_
    cases role : Landmark.ofEdge edge with
    | textStart => exact absurd ((Landmark.ofEdge_eq_iff rfl).mp role) distinct
    | textEnd => simp [role] at last
    | _ => simpa [role] using last
  cases Edge.pass_eq_some.mp passed with
  | empty name =>
    refine other fun same => ?_
    cases same
  | opening name =>
    by_cases text : name = textName
    · exact text ▸ List.mem_cons_self
    · exact List.mem_cons_of_mem _ (other fun same => text (congrArg Edge.name same))
  | closing name =>
    by_cases text : name = textName
    · subst text
      cases last
    · refine List.mem_of_ne_of_mem (Ne.symm text) (other fun same => ?_)
      cases same

/-- Elements that nest leave no text element open that they have not opened. -/
theorem mem_of_inside {items : List Item} {opened after : List Text} {inside : Bool}
    (passed : Edge.passAll opened (items.filterMap Edge.ofItem?) = some after)
    (within : inside = true → textName ∈ opened) (last : items.foldl insideAfter inside = true) :
    textName ∈ after := by
  induction items generalizing opened inside with
  | nil =>
    cases passed
    exact within last
  | cons item rest ih =>
    cases item with
    | text raw => exact ih passed within last
    | markup raw =>
      cases edge : Edge.ofMarkup? raw with
      | none =>
        rw [List.filterMap_cons_none (by rw [Edge.ofItem?, edge])] at passed
        refine ih passed (fun inside => within ?_) last
        rw [insideAfter, Landmark.ofMarkup, edge] at inside
        exact inside
      | some found =>
        rw [List.filterMap_cons_some (by rw [Edge.ofItem?, edge])] at passed
        obtain ⟨next, here, later⟩ := Option.bind_eq_some_iff.mp passed
        exact ih later (mem_of_insideAfter edge here within) last

/-- What the reading makes of an item of the outline: it keeps it, up to white space attributes of
the start tags of text elements. -/
inductive Kept : Item → Item → Prop
  | same (item : Item) : Kept item item
  | preserved {raw : Text} (tag : Edge.TextTag raw) :
      Kept (.markup raw) (.markup (preserveSpace raw))

theorem Kept.trans {a b c : Item} (first : Kept a b) (second : Kept b c) : Kept a c := by
  cases first with
  | same => exact second
  | preserved tag =>
    cases second with
    | same => exact .preserved tag
    | preserved again =>
      rw [Edge.preserveSpace_idem]
      exact .preserved tag

end Item

/-- Whether a piece spells an item: XML as it stands, and a tag as the braces around a text without
braces whose references are resolved before the tag is read from it. -/
inductive Piece.Spells : Piece → Item → Prop
  | markup {raw : Text} (opened : raw.head? = some '<') : Spells (.verbatim raw) (.markup raw)
  | text {raw : Text} (plain : '<' ∉ raw) : Spells (.verbatim raw) (.text raw)
  | tag {placed : PlacedTag} {raw : Text} (opening : '\x7b' ∉ raw) (closing : '\x7d' ∉ raw)
      (read : Tag.ofText? (Entity.unescape raw) = some placed.toTag) :
      Spells (.tag placed) (.text ('\x7b' :: raw ++ ['\x7d']))

/-- Pieces that spell items with the given stream, and with the given outline up to white space
attributes; behind them is the inside of a text element, or not. -/
def Spelled (pieces : List Piece) (outline : List Item) (stream : Text) (inside : Bool) : Prop :=
  ∃ items, List.Forall₂ Piece.Spells pieces items ∧
    List.Forall₂ Item.Kept outline (Item.outline false items) ∧
    Item.stream false items = stream ∧ items.foldl Item.insideAfter false = inside

theorem spelled_nil : Spelled [] [] [] false :=
  ⟨[], .nil, .nil, rfl, rfl⟩

/-- One more piece adds the outline and the stream of its item. -/
theorem Spelled.append {pieces : List Piece} {outline : List Item} {stream : Text} {inside : Bool}
    (spelled : Spelled pieces outline stream inside) {piece : Piece} {item : Item}
    (spells : piece.Spells item) :
    Spelled (pieces ++ [piece]) (outline ++ Item.outline inside [item])
      (stream ++ Item.stream inside [item]) (Item.insideAfter inside item) := by
  obtain ⟨items, all, kept, rfl, rfl⟩ := spelled
  refine ⟨items ++ [item], List.rel_append all (.cons spells .nil), ?_, ?_, by simp⟩
  · rw [Item.outline_append]
    exact List.rel_append kept (List.forall₂_same.mpr fun item _ => .same item)
  · rw [Item.stream_append]

theorem forall₂_append_left {A B : Type} {R : A → B → Prop} {a b : List A} {items : List B}
    (related : List.Forall₂ R (a ++ b) items) :
    ∃ front back, items = front ++ back ∧ List.Forall₂ R a front ∧ List.Forall₂ R b back := by
  induction a generalizing items with
  | nil => exact ⟨[], items, rfl, .nil, related⟩
  | cons head rest ih =>
    cases related with
    | cons here later =>
      obtain ⟨front, back, rfl, first, second⟩ := ih later
      exact ⟨_ :: front, back, rfl, .cons here first, second⟩

theorem Edge.TextTag.insideAfter_eq {raw : Text} (tag : Edge.TextTag raw) (inside : Bool) :
    Item.insideAfter inside (.markup raw) = true := by
  have role : Landmark.ofMarkup raw = .textStart := by
    rw [Landmark.ofMarkup, tag.edge]
    rfl
  rw [Item.insideAfter, role]

theorem Edge.TextTag.eq_markup_of_spells {raw : Text} (tag : Edge.TextTag raw) {item : Item}
    (spells : Piece.Spells (.verbatim raw) item) : item = .markup raw := by
  cases spells with
  | markup => rfl
  | text plain =>
    have opened := tag.cut.opened
    exact absurd (List.mem_of_mem_head? opened) plain

theorem forall₂_kept_trans {a b c : List Item} (first : List.Forall₂ Item.Kept a b)
    (second : List.Forall₂ Item.Kept b c) : List.Forall₂ Item.Kept a c := by
  induction first generalizing c with
  | nil => exact second
  | cons here _ ih =>
    cases second with
    | cons next later => exact .cons (here.trans next) (ih later)

/-- A start tag of a text element may get the attribute that keeps white space. -/
theorem Spelled.preserve {front back : List Piece} {outline : List Item} {stream : Text}
    {inside : Bool} {raw : Text} (tag : Edge.TextTag raw)
    (spelled : Spelled (front ++ .verbatim raw :: back) outline stream inside) :
    Spelled (front ++ .verbatim (preserveSpace raw) :: back) outline stream inside := by
  obtain ⟨items, all, kept, rfl, rfl⟩ := spelled
  obtain ⟨before, rest, rfl, first, second⟩ := forall₂_append_left all
  cases second with
  | @cons _ item _ after here later =>
    cases tag.eq_markup_of_spells here
    refine ⟨before ++ .markup (preserveSpace raw) :: after, ?_, ?_, ?_, ?_⟩
    · exact List.rel_append first (.cons (.markup tag.preserve.cut.opened) later)
    · refine forall₂_kept_trans kept ?_
      rw [Item.outline_append, Item.outline_append]
      refine List.rel_append (List.forall₂_same.mpr fun item _ => .same item) ?_
      rw [Item.outline, Item.outline, tag.insideAfter_eq, tag.preserve.insideAfter_eq]
      exact .cons (.preserved tag) (List.forall₂_same.mpr fun item _ => .same item)
    · rw [Item.stream_append, Item.stream_append, Item.stream, Item.stream, tag.insideAfter_eq,
        tag.preserve.insideAfter_eq]
    · rw [List.foldl_append, List.foldl_append, List.foldl_cons, List.foldl_cons,
        tag.insideAfter_eq, tag.preserve.insideAfter_eq]

/-- Marking a text element changes neither the outline, up to the mark, nor the stream. -/
theorem Spelled.preserveAt {pieces : Array Piece} {outline : List Item} {stream : Text}
    {inside : Bool} {place : Nat} (starts : Piece.StartsText pieces place)
    (spelled : Spelled pieces.toList outline stream inside) :
    Spelled (Reading.preserveAt pieces place).toList outline stream inside := by
  obtain ⟨raw, found, tag⟩ := starts
  obtain ⟨bound, here⟩ := Array.getElem?_eq_some_iff.mp found
  have before : pieces.toList = pieces.toList.take place ++
      .verbatim raw :: pieces.toList.drop (place + 1) := by
    rw [← here, ← Array.getElem_toList bound, List.getElem_cons_drop, List.take_append_drop]
  have after : (Reading.preserveAt pieces place).toList = pieces.toList.take place ++
      .verbatim (preserveSpace raw) :: pieces.toList.drop (place + 1) := by
    rw [Reading.preserveAt, Array.toList_modify, List.modify_eq_take_cons_drop bound,
      Array.getElem_toList bound, here]
  rw [before] at spelled
  rw [after]
  exact spelled.preserve tag

end WordMerge
