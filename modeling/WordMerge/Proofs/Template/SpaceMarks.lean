import WordMerge.Proofs.Template.Lossless

namespace WordMerge

/-- A text element and what stands in it. -/
structure TextElement where
  /-- Its start tag. -/
  start : Text
  /-- The characters in it outside tags. -/
  characters : Text := []
  /-- The tags in it. -/
  tags : List PlacedTag := []
  deriving DecidableEq, Repr

/-- The element with the attribute that keeps its white space. -/
def TextElement.mark (element : TextElement) : TextElement :=
  { element with start := preserveSpace element.start }

theorem TextElement.mark_mark (element : TextElement) : element.mark.mark = element.mark := by
  rw [mark, mark, Edge.preserveSpace_idem]

/-- The text elements among some pieces, as far as these were passed. -/
structure TextElements where
  /-- The elements so far, the last one first. -/
  found : List TextElement := []
  /-- Whether the last one is open. -/
  inside : Bool := false

namespace TextElements

/-- Changes the last element if it is open. -/
def grow (s : TextElements) (change : TextElement → TextElement) : TextElements :=
  if s.inside then { s with found := s.found.modifyHead change } else s

/-- Adds characters to the last element if it is open. -/
def add (s : TextElements) (text : Text) : TextElements :=
  s.grow fun element => { element with characters := element.characters ++ text }

/-- Passes a piece. -/
def step (s : TextElements) : Piece → TextElements
  | .verbatim raw =>
    match Landmark.ofMarkup raw with
    | .textStart => ⟨{ start := raw } :: s.found, true⟩
    | .textEnd => { s with inside := false }
    | _ => if raw.head? = some '<' then s else s.add raw
  | .tag placed => s.grow fun element => { element with tags := element.tags ++ [placed] }

/-- The text elements among the given pieces. -/
def ofPieces (pieces : Array Piece) : TextElements :=
  pieces.toList.foldl step {}

/-- Marks the last element, open or not. -/
def mark (s : TextElements) : TextElements :=
  { s with found := s.found.modifyHead TextElement.mark }

/-- Character data is added to the open text element. -/
theorem step_of_plain {raw : Text} (s : TextElements) (plain : '<' ∉ raw) :
    s.step (.verbatim raw) = s.add raw := by
  have first : raw.head? ≠ some '<' := fun first => plain (List.mem_of_mem_head? first)
  have edge : Edge.ofMarkup? raw = none := by
    unfold Edge.ofMarkup?
    split <;> simp_all
  rw [step, Landmark.ofMarkup, edge]
  exact if_neg first

theorem add_nil (s : TextElements) : s.add [] = s := by
  obtain ⟨found, inside⟩ := s
  cases found <;> cases inside <;> simp [add, grow]

theorem add_append (s : TextElements) (a b : Text) : s.add (a ++ b) = (s.add a).add b := by
  obtain ⟨found, inside⟩ := s
  cases found <;> cases inside <;> simp [add, grow]

theorem grow_inside (s : TextElements) (change : TextElement → TextElement) :
    (s.grow change).inside = s.inside := by
  unfold grow
  split <;> rfl

/-- A change of the last element that does not touch its start tag can be made before or after
marking it. -/
theorem mark_grow {change : TextElement → TextElement}
    (commutes : ∀ element, change element.mark = (change element).mark) (s : TextElements) :
    s.mark.grow change = (s.grow change).mark := by
  obtain ⟨found, inside⟩ := s
  cases found <;> cases inside <;> simp [mark, grow, commutes]

theorem mark_mark (s : TextElements) : s.mark.mark = s.mark := by
  obtain ⟨found, inside⟩ := s
  cases found <;> simp [mark, TextElement.mark_mark]

theorem mark_add (s : TextElements) (text : Text) : s.mark.add text = (s.add text).mark :=
  mark_grow (fun element => by cases element; rfl) s

theorem mark_step_tag (s : TextElements) (placed : PlacedTag) :
    s.mark.step (.tag placed) = (s.step (.tag placed)).mark :=
  mark_grow (fun element => by cases element; rfl) s

/-- A start tag of a text element begins one. -/
theorem step_of_textStart {raw : Text} (s : TextElements)
    (role : Landmark.ofMarkup raw = .textStart) :
    s.step (.verbatim raw) = ⟨{ start := raw } :: s.found, true⟩ := by
  rw [step, role]

/-- An end tag of a text element ends it. -/
theorem step_of_textEnd {raw : Text} (s : TextElements) (role : Landmark.ofMarkup raw = .textEnd) :
    s.step (.verbatim raw) = { s with inside := false } := by
  rw [step, role]

theorem step_of_inner {raw : Text} (s : TextElements)
    (inner : Landmark.ofMarkup raw ∉ [.textStart, .textEnd]) :
    s.step (.verbatim raw) = if raw.head? = some '<' then s else s.add raw := by
  rw [step]
  split
  · next role => simp [role] at inner
  · next role => simp [role] at inner
  · rfl

/-- Only the borders of text elements matter to which one is marked. -/
theorem mark_step_of_inner {raw : Text} (s : TextElements)
    (inner : Landmark.ofMarkup raw ∉ [.textStart, .textEnd]) :
    s.mark.step (.verbatim raw) = (s.step (.verbatim raw)).mark := by
  rw [step_of_inner _ inner, step_of_inner _ inner]
  split
  · rfl
  · exact mark_add s raw

theorem ofPieces_push (pieces : Array Piece) (piece : Piece) :
    ofPieces (pieces.push piece) = (ofPieces pieces).step piece := by
  simp [ofPieces]

/-- Text elements that are related one by one. -/
structure Alike (R : TextElement → TextElement → Prop) (s t : TextElements) : Prop where
  inside : s.inside = t.inside
  found : List.Forall₂ R s.found t.found

variable {R : TextElement → TextElement → Prop} {s t : TextElements}

/-- Elements that are alike stay alike under changes that keep them so. -/
theorem Alike.grow {change change' : TextElement → TextElement} (alike : Alike R s t)
    (grown : ∀ e f, R e f → R (change e) (change' f)) :
    Alike R (s.grow change) (t.grow change') := by
  obtain ⟨found, inside⟩ := s
  obtain ⟨found', inside'⟩ := t
  obtain ⟨same, related⟩ := alike
  dsimp only at same related
  subst same
  unfold TextElements.grow
  split
  · refine ⟨rfl, ?_⟩
    cases related with
    | nil => exact .nil
    | cons first rest => exact .cons (grown _ _ first) rest
  · exact ⟨rfl, related⟩

theorem Alike.step {raw : Text} (alike : Alike R s t) (opened : raw.head? = some '<')
    (starts : Landmark.ofMarkup raw = .textStart → R { start := raw } { start := raw }) :
    Alike R (s.step (.verbatim raw)) (t.step (.verbatim raw)) := by
  by_cases start : Landmark.ofMarkup raw = .textStart
  · rw [step_of_textStart _ start, step_of_textStart _ start]
    exact ⟨rfl, .cons (starts start) alike.found⟩
  · by_cases stop : Landmark.ofMarkup raw = .textEnd
    · rw [step_of_textEnd _ stop, step_of_textEnd _ stop]
      exact ⟨rfl, alike.found⟩
    · rw [step_of_inner _ (by simp [start, stop]), step_of_inner _ (by simp [start, stop]),
        if_pos opened, if_pos opened]
      exact alike

/-- A text element before and after the reading. -/
structure Exact (before after : TextElement) : Prop where
  begins : after.tags ≠ [] ↔ '\x7b' ∈ before.characters
  kept : after.tags = [] → after.start = before.start
  marked : after.tags ≠ [] → after.start = preserveSpace before.start
  left : after.characters.Sublist before.characters
  tag : Edge.TextTag before.start

/-- Characters outside tags keep two elements exact, and some of them may be left out of the second
one. -/
theorem Exact.add {before after : TextElement} (exact : Exact before after) {text : Text}
    (unbraced : '\x7b' ∉ text) {rest : Text} (left : rest.Sublist text) :
    Exact { before with characters := before.characters ++ text }
      { after with characters := after.characters ++ rest } := by
  refine ⟨?_, exact.kept, exact.marked, exact.left.append left, exact.tag⟩
  have begins := exact.begins
  simpa [unbraced] using begins

theorem Alike.add (alike : Alike Exact s t) {text : Text} (unbraced : '\x7b' ∉ text) :
    Alike Exact (s.add text) (t.add text) :=
  alike.grow fun _ _ exact => exact.add unbraced (List.Sublist.refl text)

/-- Characters of a tag are no characters of the element any more. -/
theorem Alike.addTag (alike : Alike Exact s t) {text : Text} (unbraced : '\x7b' ∉ text) :
    Alike Exact (s.add text) t := by
  have grown : Alike Exact (s.add text) (t.add []) :=
    alike.grow fun _ _ exact => exact.add unbraced (List.nil_sublist text)
  rwa [add_nil] at grown

/-- The opening brace of a tag stands for the tag. -/
theorem Exact.begin {before after : TextElement} (exact : Exact before after) (placed : PlacedTag) :
    Exact { before with characters := before.characters ++ ['\x7b'] }
      { after.mark with tags := after.mark.tags ++ [placed] } := by
  refine ⟨by simp, by simp, fun _ => ?_, exact.left.trans (List.sublist_append_left _ _), exact.tag⟩
  by_cases bare : after.tags = []
  · exact congrArg preserveSpace (exact.kept bare)
  · exact (congrArg preserveSpace (exact.marked bare)).trans (Edge.preserveSpace_idem _)

/-- A tag that begins marks its element. -/
theorem Alike.begin (alike : Alike Exact s t) (inside : t.inside = true) (placed : PlacedTag) :
    Alike Exact (s.add ['\x7b']) (t.mark.step (.tag placed)) := by
  have marked : t.mark.step (.tag placed) =
      t.grow fun f => { f.mark with tags := f.mark.tags ++ [placed] } := by
    obtain ⟨found, _⟩ := t
    cases inside
    cases found <;> simp [mark, TextElements.step, TextElements.grow]
  rw [marked]
  exact alike.grow fun _ _ exact => exact.begin placed

end TextElements

namespace Reading

/-- Marking a text element and adding a piece behind it can be done in any order. -/
theorem preserveAt_push {pieces : Array Piece} {place : Nat} (bound : place < pieces.size)
    (piece : Piece) : preserveAt (pieces.push piece) place = (preserveAt pieces place).push piece := by
  refine Array.ext_getElem? fun i => ?_
  simp only [preserveAt, Array.getElem?_modify, Array.getElem?_push, Array.size_modify]
  split
  · next here =>
    rw [if_neg (by omega), if_neg (by omega)]
  · rfl

theorem preserveAt_push_size (pieces : Array Piece) (raw : Text) :
    preserveAt (pieces.push (.verbatim raw)) pieces.size =
      pieces.push (.verbatim (preserveSpace raw)) := by
  refine Array.ext_getElem? fun i => ?_
  simp only [preserveAt, Array.getElem?_modify, Array.getElem?_push]
  split
  · next here =>
    rw [if_pos here.symm, if_pos here.symm]
    rfl
  · next here => rw [if_neg (Ne.symm here), if_neg (Ne.symm here)]

theorem preserveAt_preserveAt (pieces : Array Piece) (place : Nat) :
    preserveAt (preserveAt pieces place) place = preserveAt pieces place := by
  refine Array.ext_getElem? fun i => ?_
  simp only [preserveAt, Array.getElem?_modify]
  split
  · rw [Option.map_map]
    congr 1
    funext piece
    cases piece with
    | verbatim raw => exact congrArg Piece.verbatim (Edge.preserveSpace_idem raw)
    | tag placed => rfl
  · rfl

/-- Finishing a tag and adding a piece behind it can be done in any order. -/
theorem finished_push {pieces : Array Piece} {pending : PendingTag} (tag : PlacedTag)
    (slot : pending.slot < pieces.size)
    (start : ∀ place, pending.textStart = some place → place < pieces.size) (piece : Piece) :
    finished (pieces.push piece) pending tag = (finished pieces pending tag).push piece := by
  have placed : (pieces.push piece).setIfInBounds pending.slot (.tag tag) =
      (pieces.setIfInBounds pending.slot (.tag tag)).push piece := by
    have inside : pending.slot < pieces.toList.length := by rwa [Array.length_toList]
    rw [← Array.toList_inj]
    simp [Array.toList_setIfInBounds, List.set_append_left _ _ inside]
  unfold finished
  rw [placed]
  cases around : pending.textStart with
  | none => rfl
  | some place => exact preserveAt_push (by simpa using start place around) piece

theorem finished_begun {pieces : Array Piece} {pending : PendingTag} {place : Nat} (tag : PlacedTag)
    (slot : pending.slot = pieces.size) (start : pending.textStart = some place)
    (bound : place < pieces.size) :
    finished (pieces.push (.verbatim [])) pending tag = (preserveAt pieces place).push (.tag tag) := by
  have placed : (pieces.push (.verbatim [])).setIfInBounds pending.slot (.tag tag) =
      pieces.push (.tag tag) := by
    rw [slot, ← Array.toList_inj]
    simp [Array.toList_setIfInBounds, List.set_append_right]
  unfold finished
  rw [placed, start]
  exact preserveAt_push bound _

open TextElements

/-- Pieces with the given text elements, of which the open one starts at the given place. -/
structure Holds (pieces : Array Piece) (textStart : Option Nat) (s : TextElements) : Prop where
  alike : Alike Exact s (ofPieces pieces)
  inside : (ofPieces pieces).inside = textStart.isSome
  place : ∀ place, textStart = some place → place < pieces.size ∧
    ofPieces (preserveAt pieces place) = (ofPieces pieces).mark

section Holds

variable {pieces : Array Piece} {textStart : Option Nat} {s : TextElements}

theorem Holds.push (holds : Holds pieces textStart s) {piece : Piece} {next : TextElements}
    (alike : Alike Exact next ((ofPieces pieces).step piece))
    (inside : ((ofPieces pieces).step piece).inside = (ofPieces pieces).inside)
    (commutes : (ofPieces pieces).mark.step piece = ((ofPieces pieces).step piece).mark) :
    Holds (pieces.push piece) textStart next := by
  refine ⟨?_, ?_, fun place start => ?_⟩
  · rwa [ofPieces_push]
  · rw [ofPieces_push, inside, holds.inside]
  · obtain ⟨bound, marked⟩ := holds.place place start
    refine ⟨by rw [Array.size_push]; omega, ?_⟩
    rw [preserveAt_push bound, ofPieces_push, ofPieces_push, marked, commutes]

/-- Characters outside tags are held. -/
theorem Holds.text (holds : Holds pieces textStart s) {text : Text} (plain : '<' ∉ text)
    (unbraced : '\x7b' ∉ text) : Holds (pieces.push (.verbatim text)) textStart (s.add text) := by
  refine holds.push ?_ ?_ ?_ <;> simp only [step_of_plain _ plain]
  · exact holds.alike.add unbraced
  · exact grow_inside _ _
  · exact mark_add _ _

/-- Characters of a tag go to its place. -/
theorem Holds.add (holds : Holds pieces textStart s) {text : Text} (unbraced : '\x7b' ∉ text) :
    Holds pieces textStart (s.add text) :=
  ⟨holds.alike.addTag unbraced, holds.inside, holds.place⟩

theorem Holds.outside (holds : Holds pieces none s) {raw : Text} (plain : '<' ∉ raw) :
    Holds (pieces.push (.verbatim raw)) none (s.step (.verbatim raw)) := by
  have closed {t : TextElements} (outside : t.inside = false) : t.add raw = t := by
    simp [TextElements.add, TextElements.grow, outside]
  have outside : (ofPieces pieces).inside = false := holds.inside
  refine holds.push ?_ ?_ ?_ <;> simp only [step_of_plain _ plain]
  · rw [closed (holds.alike.inside.trans outside), closed outside]
    exact holds.alike
  · exact grow_inside _ _
  · exact mark_add _ _

theorem Holds.markup (holds : Holds pieces textStart s) {raw : Text} (opened : raw.head? = some '<')
    (inner : Landmark.ofMarkup raw ∉ [.textStart, .textEnd]) :
    Holds (pieces.push (.verbatim raw)) textStart (s.step (.verbatim raw)) := by
  refine holds.push (holds.alike.step opened fun role => ?_) ?_ (mark_step_of_inner _ inner)
  · simp [role] at inner
  · rw [step_of_inner _ inner, if_pos opened]

/-- A new text element is held unmarked. -/
theorem Holds.enter (holds : Holds pieces textStart s) {raw : Text} (tag : Edge.TextTag raw) :
    Holds (pieces.push (.verbatim raw)) (some pieces.size) (s.step (.verbatim raw)) := by
  have role {raw : Text} (tag : Edge.TextTag raw) : Landmark.ofMarkup raw = .textStart := by
    rw [Landmark.ofMarkup, tag.edge]
    rfl
  have bare : Exact { start := raw } { start := raw } :=
    ⟨by simp, fun _ => rfl, fun filled => absurd rfl filled, List.Sublist.refl _, tag⟩
  refine ⟨?_, ?_, fun place same => ?_⟩
  · rw [ofPieces_push]
    exact holds.alike.step tag.cut.opened fun _ => bare
  · rw [ofPieces_push, step_of_textStart _ (role tag)]
    rfl
  · cases same
    refine ⟨by simp, ?_⟩
    rw [preserveAt_push_size, ofPieces_push, ofPieces_push, step_of_textStart _ (role tag),
      step_of_textStart _ (role tag.preserve)]
    rfl

/-- The end of a text element is held. -/
theorem Holds.leave (holds : Holds pieces textStart s) {raw : Text} (opened : raw.head? = some '<')
    (role : Landmark.ofMarkup raw = .textEnd) :
    Holds (pieces.push (.verbatim raw)) none (s.step (.verbatim raw)) := by
  refine ⟨?_, ?_, nofun⟩
  · rw [ofPieces_push]
    exact holds.alike.step opened fun start => by rw [role] at start; cases start
  · rw [ofPieces_push, step_of_textEnd _ role]
    rfl

/-- A tag that begins in a text element marks it. -/
theorem Holds.begin {place : Nat} (holds : Holds pieces (some place) s) (placed : PlacedTag) :
    Holds ((preserveAt pieces place).push (.tag placed)) (some place) (s.add ['\x7b']) := by
  obtain ⟨bound, marked⟩ := holds.place place rfl
  have size : (preserveAt pieces place).size = pieces.size := by simp [preserveAt]
  refine ⟨?_, ?_, fun other same => ?_⟩
  · rw [ofPieces_push, marked]
    exact holds.alike.begin holds.inside placed
  · rw [ofPieces_push, marked]
    exact (grow_inside _ _).trans holds.inside
  · cases same
    refine ⟨by rw [Array.size_push]; omega, ?_⟩
    rw [preserveAt_push (size ▸ bound), preserveAt_preserveAt, ofPieces_push, marked, ← mark_step_tag,
      mark_mark]

end Holds

/-- What may become of the pieces: any tag may come to the place that waits for one. -/
def Outcome (r : Reading) (pieces : Array Piece) : Prop :=
  match r.pending with
  | none => pieces = r.pieces
  | some pending => ∃ tag, pieces = finished r.pieces pending tag

/-- A reading of a part with the given text elements. -/
structure Tells (r : Reading) (s : TextElements) : Prop where
  holds : ∀ pieces, r.Outcome pieces → Holds pieces r.textStart s
  slot : ∀ pending, r.pending = some pending → pending.slot < r.pieces.size ∧
    ∀ place, pending.textStart = some place → place < r.pieces.size

section Tells

variable {r next : Reading} {s later : TextElements}

theorem outcome_finished {pending : PendingTag} (under : r.pending = some pending)
    (tag : PlacedTag) : r.Outcome (finished r.pieces pending tag) := by
  unfold Outcome
  rw [under]
  exact ⟨tag, rfl⟩

/-- Where no tag is under way, the pieces hold what was read. -/
theorem Tells.settled (tells : r.Tells s) (free : r.pending = none) :
    Holds r.pieces r.textStart s := by
  refine tells.holds _ ?_
  unfold Outcome
  rw [free]

theorem Tells.of_holds (free : r.pending = none) (holds : Holds r.pieces r.textStart s) :
    r.Tells s := by
  refine ⟨fun pieces outcome => ?_, fun pending here => by rw [free] at here; cases here⟩
  unfold Outcome at outcome
  rw [free] at outcome
  exact outcome ▸ holds

theorem Tells.push (tells : r.Tells s) {piece : Piece} (pieces : next.pieces = r.pieces.push piece)
    (pending : next.pending = r.pending)
    (grown : ∀ pieces, pieces.size = r.pieces.size → Holds pieces r.textStart s →
      Holds (pieces.push piece) next.textStart later) : next.Tells later := by
  have bounds := tells.slot
  have holds := tells.holds
  unfold Outcome at holds
  refine ⟨fun outcome becomes => ?_, fun found here => ?_⟩
  · unfold Outcome at becomes
    rw [pending, pieces] at becomes
    cases under : r.pending with
    | none =>
      rw [under] at becomes holds
      cases becomes
      exact grown _ rfl (holds _ rfl)
    | some found =>
      rw [under] at becomes holds
      obtain ⟨tag, rfl⟩ := becomes
      obtain ⟨slot, start⟩ := bounds found under
      rw [finished_push tag slot start]
      exact grown _ (size_finished _ _ _) (holds _ ⟨tag, rfl⟩)
  · obtain ⟨slot, start⟩ := bounds found (pending ▸ here)
    rw [pieces, Array.size_push]
    exact ⟨by omega, fun place same => Nat.lt_succ_of_lt (start place same)⟩

theorem Tells.plain (tells : r.Tells s) {text : Text} (plain : '<' ∉ text)
    (unbraced : '\x7b' ∉ text) : (r.plain text).Tells (s.add text) := by
  rcases r.plain_cases text with ⟨rfl, same⟩ | same | ⟨number, same⟩
  · rw [same, add_nil]
    exact tells
  · rw [same]
    exact tells.push rfl rfl fun _ _ holds => holds.text plain unbraced
  · rw [same]
    exact tells.push rfl rfl fun _ _ holds => holds.text plain unbraced

/-- An opening brace marks the open text element. -/
theorem Tells.beginTag (tells : r.Tells s) (free : r.pending = none)
    (inText : r.textStart.isSome = true) : r.beginTag.Tells (s.add ['\x7b']) := by
  obtain ⟨place, start⟩ := Option.isSome_iff_exists.mp inText
  have holds := tells.settled free
  rw [start] at holds
  have bound := (holds.place place rfl).1
  refine ⟨fun pieces outcome => ?_, fun pending here => ?_⟩
  · obtain ⟨tag, rfl⟩ := outcome
    show Holds (finished (r.pieces.push (.verbatim [])) _ tag) r.textStart _
    rw [finished_begun tag rfl start bound, start]
    exact holds.begin tag
  · cases here
    refine ⟨by simp [Reading.beginTag, Reading.push], fun other same => ?_⟩
    cases start.symm.trans same
    simp only [Reading.beginTag, Reading.push, Array.size_push]
    omega

/-- A character of the tag under way is read and left out. -/
theorem Tells.extend (tells : r.Tells s) {pending : PendingTag} (under : r.pending = some pending)
    {c : Char} (opens : c ≠ '\x7b') :
    Tells { r with pending := some { pending with raw := c :: pending.raw } } (s.add [c]) := by
  refine ⟨fun pieces outcome => ?_, fun found here => ?_⟩
  · obtain ⟨tag, rfl⟩ := outcome
    exact (tells.holds _ (outcome_finished under tag)).add (by simpa using opens.symm)
  · cases here
    exact tells.slot pending under

/-- At a closing brace one of the tags that might come comes. -/
theorem Tells.finishTag (tells : r.Tells s) {pending : PendingTag} (under : r.pending = some pending)
    (clean : ({ r with pending := none }.finishTag pending).faults = []) :
    Tells ({ r with pending := none }.finishTag pending) (s.add ['\x7d']) := by
  rcases { r with pending := none }.finishTag_cases pending with
    ⟨fault, same⟩ | ⟨tag, _, _, same⟩
  · rw [same] at clean
    cases clean
  · rw [same]
    exact .of_holds rfl ((tells.holds _ (outcome_finished under tag)).add (by simp))

/-- The character data of a text element adds to it, of which `before` is held back. -/
theorem Tells.passes (tells : r.Tells s) (inText : r.textStart.isSome = true)
    {before rest : Text} {final : Reading} (passes : r.Passes before rest final)
    (plain : '<' ∉ before) (plainRest : '<' ∉ rest) (unbraced : '\x7b' ∉ before)
    (held : ∀ tag, r.pending = some tag → before = []) (clean : final.faults = []) :
    final.Tells (s.add (before.reverse ++ rest)) := by
  induction passes generalizing s with
  | settle _ =>
    rw [List.append_nil]
    exact tells.plain (by simpa using plain) (by simpa using unbraced)
  | wait under =>
    rw [held _ under, List.append_nil, List.reverse_nil, add_nil]
    exact tells
  | @first r before rest _ free _ ih =>
    have flushed : (r.plain before.reverse).Tells (s.add before.reverse) :=
      tells.plain (by simpa using plain) (by simpa using unbraced)
    have still : (r.plain before.reverse).pending = none := by rw [plain_pending, free]
    have inside : (r.plain before.reverse).textStart.isSome = true := by
      rw [plain_textStart, inText]
    have next := ih (flushed.beginTag still inside) inside List.not_mem_nil
      (List.not_mem_of_not_mem_cons plainRest) List.not_mem_nil (fun _ _ => rfl) clean
    rwa [← add_append, ← add_append, List.reverse_nil, List.nil_append,
      List.singleton_append] at next
  -- To begin a tag inside of another is a fault, and a fault once noted stays.
  | again under later _ =>
    rw [later.idle_of_begun clean] at under
    cases under
  | @finish r _ _ _ tag under later ih =>
    have finished := tells.finishTag under (later.faults_eq_nil clean)
    have inside : ({ r with pending := none }.finishTag tag).textStart.isSome = true := by
      rw [finishTag_textStart, inText]
    have next := ih finished inside List.not_mem_nil (List.not_mem_of_not_mem_cons plainRest)
      List.not_mem_nil (fun _ _ => rfl) clean
    rw [held tag under]
    rwa [← add_append] at next
  | unopened _ later _ => exact absurd clean later.not_reported
  | extend under opens _ _ ih =>
    have next := ih (tells.extend under opens) inText List.not_mem_nil
      (List.not_mem_of_not_mem_cons plainRest) List.not_mem_nil (fun _ _ => rfl) clean
    rw [held _ under]
    rwa [← add_append] at next
  | hold free opens _ _ ih =>
    rw [List.mem_cons, not_or] at plainRest
    have next := ih tells inText (by simpa using ⟨plainRest.1, plain⟩) plainRest.2
      (by simpa using ⟨opens.symm, unbraced⟩) (fun tag found => by rw [free] at found; cases found)
      clean
    rwa [List.reverse_cons, List.append_assoc, List.singleton_append] at next

theorem Tells.markup (tells : r.Tells s) {raw : Text} (cut : Item.Cut raw)
    (clean : (r.markup raw).faults = []) : (r.markup raw).Tells (s.step (.verbatim raw)) := by
  refine tells.push (markup_pieces r raw) (markup_pending clean) fun pieces size holds => ?_
  rw [markup_textStart]
  split
  · next role => exact size ▸ holds.enter ⟨cut, (Landmark.ofMarkup_eq_iff rfl).mp role⟩
  · next role => exact holds.leave cut.opened role
  · next start stop =>
    refine holds.markup cut.opened fun role => ?_
    rcases List.mem_pair.mp role with role | role
    · exact start role
    · exact stop role

/-- Passing an item without a fault goes on telling what was read. -/
theorem Tells.step (tells : r.Tells s) {item : Item} (fits : Fits (fun _ => True) item)
    (clean : (r.step item).faults = []) : (r.step item).Tells (s.step (.verbatim item.raw)) := by
  cases item with
  | markup raw => exact tells.markup fits clean
  | text raw =>
    show (r.step _).Tells (s.step (.verbatim raw))
    unfold Reading.step at clean ⊢
    dsimp only at clean ⊢
    split at clean
    · next inside =>
      rw [if_pos inside, step_of_plain s fits.1]
      exact tells.passes inside (r.passes_characters [] raw) List.not_mem_nil fits.1
        List.not_mem_nil (fun _ _ => rfl) clean
    · next outside =>
      rw [if_neg outside]
      have none : r.textStart = none := by simpa using outside
      refine tells.push rfl rfl fun pieces _ holds => ?_
      show Holds _ r.textStart _
      rw [none] at holds ⊢
      exact holds.outside fits.1

theorem Tells.foldl_step {items : List Item} (tells : r.Tells s)
    (fits : ∀ item ∈ items, Fits (fun _ => True) item)
    (clean : (items.foldl Reading.step r).faults = []) :
    (items.foldl Reading.step r).Tells
      ((items.map fun item => .verbatim item.raw).foldl TextElements.step s) := by
  induction items generalizing r s with
  | nil => exact tells
  | cons item rest ih =>
    rw [List.forall_mem_cons] at fits
    rw [List.foldl_cons] at clean
    exact ih (tells.step fits.1 (faults_eq_nil_of_foldl clean)) fits.2 clean

end Tells

end Reading

/-- Whether a start tag carries the attribute that keeps white space. It stands behind a blank and
outside the values of other attributes, with either quotation mark around its value. -/
def KeepsSpace (start : Text) : Prop :=
  ∃ front left right quote back,
    start = front ++ ("xml:space".toList ++ left ++ '=' :: right ++ quote :: "preserve".toList ++
      [quote]) ++ back ∧
    front.foldlM Item.quoteStep none = some none ∧ (∃ c ∈ front.getLast?, isBlank c = true) ∧
    Text.blank left = true ∧ Text.blank right = true ∧ (quote = '"' ∨ quote = '\'')

theorem KeepsSpace.occurs {start : Text} (keeps : KeepsSpace start) :
    Text.occurs "xml:space".toList start = true := by
  obtain ⟨front, left, right, quote, back, rfl, _⟩ := keeps
  generalize "xml:space".toList = word
  have found := Text.occurs_append front word
    (left ++ '=' :: right ++ quote :: "preserve".toList ++ [quote] ++ back)
  simpa using found

/-- A start tag that says nothing of white space keeps it when it is marked. -/
theorem keepsSpace_preserveSpace {raw : Text} (tag : Edge.TextTag raw)
    (missing : Text.occurs "xml:space".toList raw = false) : KeepsSpace (preserveSpace raw) := by
  obtain ⟨before, tail, rfl, _, _, walked⟩ := tag.exists_before
  obtain ⟨_, _, _, filled⟩ := Edge.ofMarkup?_eq_textOpening.mp tag.edge
  refine ⟨before ++ [' '], [], [], '"', ['>'], ?_, ?_, ⟨' ', by simp, rfl⟩, rfl, rfl, .inl rfl⟩
  · rw [Edge.preserveSpace_eq missing filled, Edge.preserveAttribute_eq]
    generalize "xml:space".toList = word
    simp
  · rw [List.foldlM_append, walked]
    rfl

namespace TextElement

/-- The text elements of a part. -/
def ofPart (source : Text) : List TextElement :=
  (((Item.scan source).map fun item => .verbatim item.raw).foldl TextElements.step {}).found.reverse

/-- What the reading makes of the start tag of a text element. -/
structure Marked (before after : TextElement) : Prop where
  /-- A tag stands in it if there was an opening brace. -/
  begins : after.tags ≠ [] ↔ '\x7b' ∈ before.characters
  /-- Then its white space is kept, if the start tag said nothing of white space or kept it. -/
  keeps : after.tags ≠ [] →
    Text.occurs "xml:space".toList before.start = false ∨ KeepsSpace before.start →
      KeepsSpace after.start
  /-- Otherwise the start tag stays as it is. -/
  kept : after.tags = [] → after.start = before.start
  /-- At most the one attribute is added, right before the end. -/
  adds : after.start = before.start ∨
    ∃ front, before.start = front ++ ['>'] ∧ after.start = front ++ preserveAttribute ++ ['>']
  /-- The characters outside tags are left in order. -/
  left : after.characters.Sublist before.characters

theorem marked_of_exact {before after : TextElement} (exact : TextElements.Exact before after) :
    Marked before after := by
  refine ⟨exact.begins, fun filled said => ?_, exact.kept, ?_, exact.left⟩
  · rw [exact.marked filled]
    rcases said with missing | keeps
    · exact keepsSpace_preserveSpace exact.tag missing
    · rwa [preserveSpace, if_pos keeps.occurs]
  · by_cases bare : after.tags = []
    · exact .inl (exact.kept bare)
    · rw [exact.marked bare]
      cases said : Text.occurs "xml:space".toList before.start with
      | true => exact .inl (by rw [preserveSpace, if_pos said])
      | false =>
        obtain ⟨front, _, split, _⟩ := exact.tag.exists_before
        obtain ⟨_, _, _, filled⟩ := Edge.ofMarkup?_eq_textOpening.mp exact.tag.edge
        rw [split] at said filled ⊢
        exact .inr ⟨front, rfl, Edge.preserveSpace_eq said filled⟩

theorem marked_bare (raw : Text) : Marked { start := raw } { start := raw } :=
  ⟨by simp, fun filled => absurd rfl filled, fun _ => rfl, .inl rfl, List.Sublist.refl _⟩

end TextElement

namespace Reading

open TextElements TextElement

/-- The text elements of any part are marked; only the last item may be markup that has no end. -/
theorem alike_scan {source : Text}
    (clean : ((Item.scan source).foldl Reading.step {}).abandon.faults = []) :
    Alike Marked (((Item.scan source).map fun item => .verbatim item.raw).foldl TextElements.step {})
      (ofPieces ((Item.scan source).foldl Reading.step {}).abandon.pieces) := by
  have free := pending_eq_none_of_abandon clean
  rw [abandon_of_pending free] at clean ⊢
  have start : Tells {} {} := .of_holds rfl ⟨⟨rfl, .nil⟩, rfl, nofun⟩
  have marked {r : Reading} {s : TextElements} (tells : r.Tells s) (free : r.pending = none) :
      Alike Marked s (ofPieces r.pieces) :=
    ⟨(tells.settled free).alike.inside,
      (tells.settled free).alike.found.imp fun _ _ => marked_of_exact⟩
  rcases fits_scan source with none | ⟨init, last, split, fits, opened, plain⟩
  · rw [none]
    exact marked start rfl
  · rw [split] at clean free ⊢
    rw [List.foldl_append, List.foldl_cons, List.foldl_nil] at clean free ⊢
    rw [List.map_append, List.foldl_append, List.map_cons, List.map_nil, List.foldl_cons,
      List.foldl_nil]
    have kept := step_faults_suffix (init.foldl Reading.step {}) last
    rw [clean, List.suffix_nil] at kept
    have tells := start.foldl_step fits kept
    cases last with
    | markup raw =>
      -- without its end the markup need not be a start tag, but then nothing comes behind it
      have before := marked tells ((markup_pending clean).symm.trans free)
      show Alike Marked (TextElements.step _ (.verbatim raw)) (ofPieces (Reading.markup _ raw).pieces)
      rw [markup_pieces, ofPieces_push]
      exact before.step (opened raw rfl) fun _ => marked_bare raw
    | text raw => exact marked (tells.step ⟨plain raw rfl, trivial⟩ clean) free

end Reading

namespace Layout

/-- The text elements of a layout, in order. -/
def textElements (layout : Layout) : List TextElement :=
  (TextElements.ofPieces layout.pieces).found.reverse

/-- If no fault is found, every text element in which a tag begins keeps its white space, unless its
start tag says something else of white space. Every other one keeps its start tag, even if it holds
characters of a tag. -/
theorem marked_of_part {source : Text} (clean : (ofPart source).faults = []) :
    List.Forall₂ TextElement.Marked (TextElement.ofPart source) (ofPart source).textElements :=
  List.rel_reverse (Reading.alike_scan (List.reverse_eq_nil_iff.mp clean)).found

/-- A tag in two text elements with spaces at their ends, and one in an element that is marked. -/
def spacedTag : Text :=
  "<w:p><w:t> a {b</w:t><w:t>c} </w:t><w:t xml:space=\"preserve\"> {d}</w:t></w:p>".toList

theorem textElements_spacedTag : (ofPart spacedTag).faults = [] ∧
    TextElement.ofPart spacedTag =
      [{ start := "<w:t>".toList, characters := " a \x7bb".toList },
        { start := "<w:t>".toList, characters := "c\x7d ".toList },
        { start := "<w:t xml:space=\"preserve\">".toList, characters := " \x7bd\x7d".toList }] ∧
    (ofPart spacedTag).textElements =
      [{ start := "<w:t xml:space=\"preserve\">".toList, characters := " a ".toList,
          tags := [⟨⟨.value, ['b', 'c']⟩, some 0, none, none⟩] },
        { start := "<w:t>".toList, characters := " ".toList },
        { start := "<w:t xml:space=\"preserve\">".toList, characters := " ".toList,
          tags := [⟨⟨.value, ['d']⟩, some 0, none, none⟩] }] := by
  decide +kernel

theorem marked_of_part_spacedTag : (ofPart spacedTag).faults = [] ∧
    List.Forall₂ TextElement.Marked (TextElement.ofPart spacedTag)
      (ofPart spacedTag).textElements :=
  ⟨textElements_spacedTag.1, marked_of_part textElements_spacedTag.1⟩

/-- The end of a tag is taken out of a text element that does not keep its white space. -/
theorem not_keepsSpace_spacedTag : (ofPart spacedTag).faults = [] ∧
    ¬ List.Forall₂ (fun before after => after.characters ≠ before.characters →
        KeepsSpace after.start)
      (TextElement.ofPart spacedTag) (ofPart spacedTag).textElements := by
  obtain ⟨clean, before, after⟩ := textElements_spacedTag
  refine ⟨clean, fun all => ?_⟩
  rw [before, after] at all
  obtain _ | ⟨_, _ | ⟨second, _⟩⟩ := all
  have said := (second (by decide)).occurs
  have silent : Text.occurs "xml:space".toList "<w:t>".toList = false := by decide +kernel
  rw [silent] at said
  cases said

end Layout

end WordMerge
