import WordMerge.Proofs.Template.Spelling

namespace WordMerge

namespace Reading

open Item

/-- Pieces with a place that waits for a tag: whatever tag comes there, the pieces then spell the
outline, and the stream with the text of the tag in braces at its end. -/
def Awaits (pieces : List Piece) (tag : PendingTag) (outline : List Item) (stream : Text)
    (inside : Bool) : Prop :=
  ∃ front back before, pieces = front ++ .verbatim [] :: back ∧ front.length = tag.slot ∧
    '\x7b' ∉ tag.raw ∧ '\x7d' ∉ tag.raw ∧ stream = before ++ '\x7b' :: tag.raw.reverse ∧
    ∀ placed raw, '\x7b' ∉ raw → '\x7d' ∉ raw →
      Tag.ofText? (Entity.unescape raw) = some placed.toTag →
      Spelled (front ++ .tag placed :: back) outline (before ++ ('\x7b' :: raw ++ ['\x7d'])) inside

/-- A reading of items with the given outline and stream. -/
def Reads (r : Reading) (outline : List Item) (stream : Text) : Prop :=
  match r.pending with
  | none => Spelled r.pieces.toList outline stream r.textStart.isSome
  | some tag => Awaits r.pieces.toList tag outline stream r.textStart.isSome

theorem Reads.spelled {r : Reading} {outline : List Item} {stream : Text}
    (reads : r.Reads outline stream) (free : r.pending = none) :
    Spelled r.pieces.toList outline stream r.textStart.isSome := by
  unfold Reads at reads
  rwa [free] at reads

theorem Reads.awaits {r : Reading} {outline : List Item} {stream : Text}
    (reads : r.Reads outline stream) {tag : PendingTag} (under : r.pending = some tag) :
    Awaits r.pieces.toList tag outline stream r.textStart.isSome := by
  unfold Reads at reads
  rwa [under] at reads

theorem Awaits.getElem?_slot {pieces : Array Piece} {tag : PendingTag} {outline : List Item}
    {stream : Text} {inside : Bool} (awaits : Awaits pieces.toList tag outline stream inside) :
    pieces[tag.slot]? = some (.verbatim []) := by
  obtain ⟨front, back, _, split, slot, _⟩ := awaits
  rw [← Array.getElem?_toList, split, ← slot]
  simp

/-- Pieces outside text elements can be added while a tag is awaited. -/
theorem Awaits.append {pieces : List Piece} {tag : PendingTag} {outline : List Item}
    {stream : Text} {inside : Bool} (awaits : Awaits pieces tag outline stream inside)
    {piece : Piece} {item : Item} (spells : piece.Spells item)
    (silent : Item.stream inside [item] = []) :
    Awaits (pieces ++ [piece]) tag (outline ++ Item.outline inside [item]) stream
      (insideAfter inside item) := by
  obtain ⟨front, back, before, rfl, slot, opening, closing, rfl, fills⟩ := awaits
  refine ⟨front, back ++ [piece], before, by simp, slot, opening, closing, rfl, ?_⟩
  intro placed raw opens closes read
  have grown := (fills placed raw opens closes read).append spells
  rw [silent, List.append_nil] at grown
  simpa using grown

/-- Markup, and character data outside text elements, is copied. -/
theorem Reads.push {r next : Reading} {outline : List Item} {stream : Text}
    (reads : r.Reads outline stream) {raw : Text} {item : Item}
    (spells : Piece.Spells (.verbatim raw) item)
    (silent : Item.stream r.textStart.isSome [item] = [])
    (pieces : next.pieces = r.pieces.push (.verbatim raw)) (pending : next.pending = r.pending)
    (start : next.textStart.isSome = insideAfter r.textStart.isSome item) :
    next.Reads (outline ++ Item.outline r.textStart.isSome [item]) stream := by
  unfold Reads
  rw [pending, pieces, start, Array.toList_push]
  cases under : r.pending with
  | none =>
    have grown := (reads.spelled under).append spells
    rwa [silent, List.append_nil] at grown
  | some tag => exact (reads.awaits under).append spells silent

theorem plain_faults (r : Reading) (text : Text) : (r.plain text).faults = r.faults := by
  rcases r.plain_cases text with ⟨_, same⟩ | same | ⟨number, same⟩ <;> rw [same] <;> rfl

theorem plain_textStart (r : Reading) (text : Text) : (r.plain text).textStart = r.textStart := by
  rcases r.plain_cases text with ⟨_, same⟩ | same | ⟨number, same⟩ <;> rw [same] <;> rfl

theorem plain_pending (r : Reading) (text : Text) : (r.plain text).pending = r.pending := by
  rcases r.plain_cases text with ⟨_, same⟩ | same | ⟨number, same⟩ <;> rw [same] <;> rfl

/-- Character data outside tags adds to the stream of a text element. -/
theorem Reads.plain {r : Reading} {outline : List Item} {stream text : Text}
    (reads : r.Reads outline stream) (free : r.pending = none)
    (inText : r.textStart.isSome = true) (plain : '<' ∉ text) :
    (r.plain text).Reads outline (stream ++ text) := by
  have spelled := reads.spelled free
  rw [inText] at spelled
  have grown := spelled.append (.text plain)
  rw [Item.outline, Item.stream, if_pos rfl, if_pos rfl, Item.outline, List.append_nil, Item.stream,
    List.append_nil, insideAfter, ← Array.toList_push] at grown
  unfold Reads
  rw [plain_pending, free, plain_textStart, inText]
  dsimp only
  rcases r.plain_cases text with ⟨empty, same⟩ | same | ⟨number, same⟩
  · rw [same, empty, List.append_nil]
    exact spelled
  · rw [same]
    exact grown
  · rw [same]
    exact grown

/-- An opening brace begins a tag whose place waits. -/
theorem Reads.beginTag {r : Reading} {outline : List Item} {stream : Text}
    (reads : r.Reads outline stream) (free : r.pending = none)
    (inText : r.textStart.isSome = true) : r.beginTag.Reads outline (stream ++ ['\x7b']) := by
  have spelled := reads.spelled free
  refine ⟨r.pieces.toList, [], stream, by simp [Reading.beginTag, Reading.push], by simp,
    List.not_mem_nil, List.not_mem_nil, rfl, ?_⟩
  intro placed raw opens closes read
  have grown := spelled.append (.tag opens closes read)
  rw [inText] at grown
  simpa [Item.outline, Item.stream, insideAfter, Reading.beginTag, Reading.push, inText] using grown

/-- A character of the tag under way is taken out of the stream and kept with the tag. -/
theorem Reads.extend {r : Reading} {outline : List Item} {stream : Text}
    (reads : r.Reads outline stream) {tag : PendingTag} (under : r.pending = some tag) {c : Char}
    (opening : c ≠ '\x7b') (closing : c ≠ '\x7d') :
    Reads { r with pending := some { tag with raw := c :: tag.raw } } outline
      (stream ++ [c]) := by
  obtain ⟨front, back, before, pieces, slot, opens, closes, rfl, fills⟩ := reads.awaits under
  refine ⟨front, back, before, pieces, slot, ?_, ?_, by simp, fills⟩
  · simpa using ⟨opening.symm, opens⟩
  · simpa using ⟨closing.symm, closes⟩

/-- At the closing brace the tag that its text spells comes to the place that waits. -/
theorem Reads.finishTag {r : Reading} {outline : List Item} {stream : Text}
    (reads : r.Reads outline stream) {pending : PendingTag} (under : r.pending = some pending)
    (starts : ∀ place, pending.textStart = some place → Piece.StartsText r.pieces place)
    (clean : ({ r with pending := none }.finishTag pending).faults = []) :
    Reads ({ r with pending := none }.finishTag pending) outline (stream ++ ['\x7d']) := by
  have waiting := (reads.awaits under).getElem?_slot
  obtain ⟨front, back, before, pieces, slot, opens, closes, rfl, fills⟩ := reads.awaits under
  rcases { r with pending := none }.finishTag_cases pending with
    ⟨fault, same⟩ | ⟨tag, read, _, same⟩
  · rw [same] at clean
    cases clean
  · rw [same]
    have placed : (r.pieces.setIfInBounds pending.slot (.tag tag)).toList =
        front ++ .tag tag :: back := by
      rw [Array.toList_setIfInBounds, pieces, ← slot, List.set_append_right _ _ (Nat.le_refl _)]
      simp
    have spelled := fills tag pending.raw.reverse (by simpa using opens) (by simpa using closes) read
    rw [← placed] at spelled
    have ends : before ++ '\x7b' :: pending.raw.reverse ++ ['\x7d'] =
        before ++ ('\x7b' :: pending.raw.reverse ++ ['\x7d']) := by simp
    rw [ends]
    unfold Reads finished
    dsimp only
    cases around : pending.textStart with
    | none => exact spelled
    | some place =>
      obtain ⟨raw, found, textTag⟩ := starts place around
      refine spelled.preserveAt ⟨raw, ?_, textTag⟩
      rw [Array.getElem?_setIfInBounds, if_neg, found]
      rintro rfl
      rw [waiting] at found
      cases found
      cases textTag.cut.opened

theorem abandon_faults_suffix (r : Reading) : r.faults <:+ r.abandon.faults := by
  unfold abandon
  split
  · exact List.suffix_rfl
  · exact List.suffix_cons _ _

/-- A tag that is given up leaves a fault. -/
theorem pending_eq_none_of_abandon {r : Reading} (clean : r.abandon.faults = []) :
    r.pending = none := by
  unfold abandon at clean
  split at clean
  · assumption
  · cases clean

theorem abandon_of_pending {r : Reading} (free : r.pending = none) : r.abandon = r := by
  unfold abandon
  rw [free]

theorem finishTag_faults_suffix (r : Reading) (pending : PendingTag) :
    r.faults <:+ (r.finishTag pending).faults := by
  rcases r.finishTag_cases pending with ⟨fault, same⟩ | ⟨tag, _, _, same⟩
  · rw [same]
    exact List.suffix_cons _ _
  · simp [same]

/-- Faults are noted and never forgotten. -/
theorem Passes.faults_suffix {r final : Reading} {before rest : Text}
    (passes : r.Passes before rest final) : r.faults <:+ final.faults := by
  induction passes with
  | @settle r before _ => exact (plain_faults r before.reverse).symm ▸ List.suffix_rfl
  | wait _ => exact List.suffix_rfl
  | @first r before _ _ _ _ ih =>
    have kept : (r.plain before.reverse).beginTag.faults = r.faults := plain_faults r _
    rwa [kept] at ih
  | @again r _ _ _ _ _ _ ih => exact (abandon_faults_suffix r).trans ih
  | @finish r _ _ _ tag _ _ ih =>
    exact (finishTag_faults_suffix { r with pending := none } tag).trans ih
  | unopened _ _ ih => exact (List.suffix_cons _ _).trans ih
  | extend _ _ _ _ ih => exact ih
  | hold _ _ _ _ ih => exact ih

theorem Passes.faults_eq_nil {r final : Reading} {before rest : Text}
    (passes : r.Passes before rest final) (clean : final.faults = []) : r.faults = [] := by
  have kept := passes.faults_suffix
  rwa [clean, List.suffix_nil] at kept

/-- Where no fault comes, no tag begins inside another one. -/
theorem Passes.idle_of_begun {r final : Reading} {rest : Text}
    (passes : r.abandon.beginTag.Passes [] rest final) (clean : final.faults = []) :
    r.pending = none := by
  have kept : r.abandon.beginTag.faults = [] := passes.faults_eq_nil clean
  exact pending_eq_none_of_abandon kept

/-- Where no fault comes, no closing brace is reported. -/
theorem Passes.not_reported {r final : Reading} {before rest : Text} {fault : TagFault}
    (passes : (r.report fault).Passes before rest final) : final.faults ≠ [] :=
  fun clean => List.cons_ne_nil _ _ (passes.faults_eq_nil clean)

/-- A reading of items with the given outline and stream that knows its text elements. -/
structure Follows (r : Reading) (outline : List Item) (stream : Text) : Prop where
  reads : r.Reads outline stream
  starts : TextStarts r.pieces r.textStart r.pending

/-- Characters outside tags are added to the stream. -/
theorem Follows.plain {r : Reading} {outline : List Item} {stream text : Text}
    (follows : r.Follows outline stream) (free : r.pending = none)
    (inText : r.textStart.isSome = true) (plain : '<' ∉ text) :
    (r.plain text).Follows outline (stream ++ text) := by
  refine ⟨follows.reads.plain free inText plain, ?_⟩
  rcases r.plain_cases text with ⟨_, same⟩ | same | ⟨number, same⟩
  · rw [same]
    exact follows.starts
  · rw [same]
    exact follows.starts.push _
  · rw [same]
    exact follows.starts.push _

/-- An opening brace makes a place for a tag. -/
theorem Follows.beginTag {r : Reading} {outline : List Item} {stream : Text}
    (follows : r.Follows outline stream) (free : r.pending = none)
    (inText : r.textStart.isSome = true) : r.beginTag.Follows outline (stream ++ ['\x7b']) := by
  have pushed := follows.starts.push (.verbatim [])
  refine ⟨follows.reads.beginTag free inText, pushed.around, fun tag same => ?_⟩
  cases same
  exact pushed.around

/-- A character goes to the tag that is under way. -/
theorem Follows.extend {r : Reading} {outline : List Item} {stream : Text}
    (follows : r.Follows outline stream) {tag : PendingTag} (under : r.pending = some tag)
    {c : Char} (opening : c ≠ '\x7b') (closing : c ≠ '\x7d') :
    Follows { r with pending := some { tag with raw := c :: tag.raw } } outline
      (stream ++ [c]) := by
  refine ⟨follows.reads.extend under opening closing, follows.starts.around, fun found same => ?_⟩
  cases same
  exact follows.starts.brace tag under

/-- A closing brace puts the tag into its place, if the characters spell one. -/
theorem Follows.finishTag {r : Reading} {outline : List Item} {stream : Text}
    (follows : r.Follows outline stream) {pending : PendingTag} (under : r.pending = some pending)
    (clean : ({ r with pending := none }.finishTag pending).faults = []) :
    Follows ({ r with pending := none }.finishTag pending) outline (stream ++ ['\x7d']) := by
  have start := follows.starts.brace pending under
  have slot := (follows.reads.awaits under).getElem?_slot
  refine ⟨follows.reads.finishTag under start clean, ?_⟩
  rcases { r with pending := none }.finishTag_cases pending with
    ⟨fault, same⟩ | ⟨tag, _, _, same⟩
  · rw [same]
    exact follows.starts.forget
  · rw [same]
    exact ⟨fun place around =>
      StartsText.finished slot start tag (follows.starts.around place around), nofun⟩

theorem finishTag_textStart (r : Reading) (pending : PendingTag) :
    (r.finishTag pending).textStart = r.textStart := by
  rcases r.finishTag_cases pending with ⟨fault, same⟩ | ⟨tag, _, _, same⟩
  · rw [same, Reading.report]
  · rw [same]

/-- Passing character data does not leave the text element. -/
theorem Passes.textStart {r final : Reading} {before rest : Text}
    (passes : r.Passes before rest final) : final.textStart = r.textStart := by
  induction passes with
  | settle _ => exact plain_textStart _ _
  | wait _ => rfl
  | first _ _ ih => exact ih.trans (plain_textStart _ _)
  | again _ _ ih => exact ih.trans (abandon_textStart _)
  | finish _ _ ih => exact ih.trans (finishTag_textStart _ _)
  | unopened _ _ ih => exact ih
  | extend _ _ _ _ ih => exact ih
  | hold _ _ _ _ ih => exact ih

/-- The character data of a text element adds to the stream, of which `before` is held back. -/
theorem Follows.passes {r final : Reading} {outline : List Item} {stream before rest : Text}
    (follows : r.Follows outline stream) (inText : r.textStart.isSome = true)
    (passes : r.Passes before rest final) (plain : '<' ∉ before) (plainRest : '<' ∉ rest)
    (held : ∀ tag, r.pending = some tag → before = []) (clean : final.faults = []) :
    final.Follows outline (stream ++ before.reverse ++ rest) := by
  induction passes generalizing stream with
  | settle free =>
    rw [List.append_nil]
    exact follows.plain free inText (by simpa using plain)
  | wait under =>
    rw [held _ under, List.reverse_nil, List.append_nil, List.append_nil]
    exact follows
  | @first r before rest _ free _ ih =>
    rw [List.mem_cons, not_or] at plainRest
    have reversed : '<' ∉ before.reverse := by simpa using plain
    have flushed := follows.plain free inText reversed
    have still : (r.plain before.reverse).pending = none := by rw [plain_pending, free]
    have inside : (r.plain before.reverse).textStart.isSome = true := by
      rw [plain_textStart, inText]
    have later := ih (flushed.beginTag still inside) inside (by simp) plainRest.2 (fun _ _ => rfl)
      clean
    simpa using later
  | again under later _ =>
    rw [later.idle_of_begun clean] at under
    cases under
  | @finish r _ rest _ tag under later ih =>
    rw [List.mem_cons, not_or] at plainRest
    rw [held tag under, List.reverse_nil, List.append_nil]
    have finished := follows.finishTag under (later.faults_eq_nil clean)
    have inside : ({ r with pending := none }.finishTag tag).textStart.isSome = true := by
      rw [finishTag_textStart, inText]
    simpa using ih finished inside (by simp) plainRest.2 (fun _ _ => rfl) clean
  | unopened _ later _ => exact absurd clean later.not_reported
  | extend under opens closes _ ih =>
    rw [List.mem_cons, not_or] at plainRest
    rw [held _ under, List.reverse_nil, List.append_nil]
    have extended := follows.extend under opens closes
    simpa using ih extended inText (by simp) plainRest.2 (fun _ _ => rfl) clean
  | hold free _ _ _ ih =>
    rw [List.mem_cons, not_or] at plainRest
    have later := ih follows inText (by simpa using ⟨plainRest.1, plain⟩) plainRest.2
      (fun tag found => by rw [free] at found; cases found) clean
    simpa using later

theorem markup_pieces (r : Reading) (raw : Text) :
    (r.markup raw).pieces = r.pieces.push (.verbatim raw) := by
  unfold Reading.markup
  cases Landmark.ofMarkup raw with
  | paragraphEnd => simp only [enter, push, closeParagraph]; split <;> simp
  | rowEnd => simp only [enter, push, closeRow]; split <;> rfl
  | _ => rfl

theorem markup_textStart (r : Reading) (raw : Text) :
    (r.markup raw).textStart = match Landmark.ofMarkup raw with
      | .textStart => some r.pieces.size
      | .textEnd => none
      | _ => r.textStart := by
  unfold Reading.markup
  cases Landmark.ofMarkup raw with
  | paragraphEnd => simp only [enter, push, closeParagraph]; split <;> simp
  | rowEnd => simp only [enter, push, closeRow]; split <;> rfl
  | _ => rfl

theorem closeParagraph_faults (r : Reading) : r.closeParagraph.faults = r.abandon.faults := by
  unfold closeParagraph
  dsimp only
  split <;> rfl

/-- Markup without a fault leaves the tag under way alone. -/
theorem markup_pending {r : Reading} {raw : Text} (clean : (r.markup raw).faults = []) :
    (r.markup raw).pending = r.pending := by
  unfold Reading.markup at clean ⊢
  cases role : Landmark.ofMarkup raw with
  | paragraphEnd =>
    rw [role] at clean
    have settled : r.abandon.faults = [] := by rwa [← closeParagraph_faults]
    simp only [enter, push, closeParagraph]
    rw [pending_eq_none_of_abandon settled]
    split <;> simp
  | rowEnd => simp only [enter, push, closeRow]; split <;> rfl
  | _ => rfl

theorem markup_faults_suffix (r : Reading) (raw : Text) : r.faults <:+ (r.markup raw).faults := by
  unfold Reading.markup
  cases Landmark.ofMarkup raw with
  | paragraphEnd =>
    have closed : r.closeParagraph.faults = r.abandon.faults := closeParagraph_faults r
    exact closed ▸ abandon_faults_suffix r
  | rowEnd => simp only [enter, push, closeRow]; split <;> exact List.suffix_rfl
  | _ => exact List.suffix_rfl

theorem step_faults_suffix (r : Reading) (item : Item) : r.faults <:+ (r.step item).faults := by
  cases item with
  | markup raw => exact markup_faults_suffix r raw
  | text raw =>
    unfold step
    dsimp only
    split
    · exact (r.passes_characters [] raw).faults_suffix
    · exact List.suffix_rfl

theorem foldl_step_faults_suffix (r : Reading) (items : List Item) :
    r.faults <:+ (items.foldl step r).faults := by
  induction items generalizing r with
  | nil => exact List.suffix_rfl
  | cons item rest ih => exact (step_faults_suffix r item).trans (ih _)

theorem markup_inside (r : Reading) (raw : Text) :
    (r.markup raw).textStart.isSome = insideAfter r.textStart.isSome (.markup raw) := by
  rw [markup_textStart, insideAfter]
  cases Landmark.ofMarkup raw <;> rfl

theorem step_inside (r : Reading) (item : Item) :
    (r.step item).textStart.isSome = insideAfter r.textStart.isSome item := by
  cases item with
  | markup raw => exact markup_inside r raw
  | text raw =>
    rw [Reading.step]
    split
    · rw [(r.passes_characters [] raw).textStart]
      rfl
    · rfl

/-- A reading is inside a text element exactly where an extraction is. -/
theorem foldl_step_inside (r : Reading) (items : List Item) :
    (items.foldl Reading.step r).textStart.isSome =
      items.foldl insideAfter r.textStart.isSome := by
  induction items generalizing r with
  | nil => rfl
  | cons item items ih => rw [List.foldl_cons, List.foldl_cons, ih, step_inside]

theorem Reads.markup {r : Reading} {outline : List Item} {stream : Text}
    (reads : r.Reads outline stream) {raw : Text} (opened : raw.head? = some '<')
    (clean : (r.markup raw).faults = []) :
    (r.markup raw).Reads (outline ++ [.markup raw]) stream :=
  reads.push (.markup opened) rfl (markup_pieces r raw) (markup_pending clean) (markup_inside r raw)

/-- Markup that has its end may start a text element. -/
theorem Follows.markup {r : Reading} {outline : List Item} {stream : Text}
    (follows : r.Follows outline stream) {raw : Text} (cut : Item.Cut raw)
    (clean : (r.markup raw).faults = []) :
    (r.markup raw).Follows (outline ++ [.markup raw]) stream := by
  refine ⟨follows.reads.markup cut.opened clean, ?_⟩
  rw [markup_pieces, markup_textStart, markup_pending clean]
  have pushed := follows.starts.push (.verbatim raw)
  cases role : Landmark.ofMarkup raw with
  | textStart => exact follows.starts.enter ⟨cut, (Landmark.ofMarkup_eq_iff rfl).mp role⟩
  | textEnd => exact pushed.leave
  | _ => exact pushed

/-- Reading an item without a fault spells it. -/
theorem Follows.step {r : Reading} {outline : List Item} {stream : Text}
    (follows : r.Follows outline stream) {item : Item} (fits : Fits (fun _ => True) item)
    (clean : (r.step item).faults = []) :
    (r.step item).Follows (outline ++ Item.outline r.textStart.isSome [item])
      (stream ++ Item.stream r.textStart.isSome [item]) := by
  cases item with
  | markup raw =>
    rw [Item.stream, Item.stream, List.append_nil]
    exact follows.markup fits clean
  | text raw =>
    cases inside : r.textStart.isSome with
    | true =>
      have passed : r.step (.text raw) = r.characters [] raw := by simp [Reading.step, inside]
      rw [passed] at clean ⊢
      have next := follows.passes inside (r.passes_characters [] raw) (by simp) fits.1
        (fun _ _ => rfl) clean
      simpa [Item.outline, Item.stream] using next
    | false =>
      have passed : r.step (.text raw) = r.push (.verbatim raw) := by simp [Reading.step, inside]
      rw [passed]
      have silent : Item.stream r.textStart.isSome [.text raw] = [] := by rw [inside]; rfl
      have pushed : (r.push (.verbatim raw)).Reads
          (outline ++ Item.outline r.textStart.isSome [.text raw]) stream :=
        follows.reads.push (.text fits.1) silent rfl rfl rfl
      rw [inside] at pushed silent
      rw [silent, List.append_nil]
      exact ⟨pushed, follows.starts.push _⟩

theorem faults_eq_nil_of_foldl {r : Reading} {items : List Item}
    (clean : (items.foldl Reading.step r).faults = []) : r.faults = [] := by
  have kept := foldl_step_faults_suffix r items
  rwa [clean, List.suffix_nil] at kept

/-- Passing items adds their outline and their stream. -/
theorem Follows.foldl_step {items : List Item} {r : Reading} {outline : List Item} {stream : Text}
    (follows : r.Follows outline stream) (fits : ∀ item ∈ items, Fits (fun _ => True) item)
    (clean : (items.foldl Reading.step r).faults = []) :
    (items.foldl Reading.step r).Follows (outline ++ Item.outline r.textStart.isSome items)
      (stream ++ Item.stream r.textStart.isSome items) := by
  induction items generalizing r outline stream with
  | nil => simpa [Item.outline, Item.stream] using follows
  | cons item rest ih =>
    rw [List.forall_mem_cons] at fits
    rw [List.foldl_cons] at clean
    have last := ih (follows.step fits.1 (faults_eq_nil_of_foldl clean)) fits.2 clean
    have outlines := Item.outline_append r.textStart.isSome [item] rest
    have streams := Item.stream_append r.textStart.isSome [item] rest
    rw [List.singleton_append, List.foldl_cons, List.foldl_nil, ← step_inside] at outlines streams
    rwa [outlines, streams, ← List.append_assoc, ← List.append_assoc, List.foldl_cons]

theorem follows_start : Follows {} [] [] :=
  ⟨spelled_nil, nofun, nofun⟩

/-- The items of any part are read with their outline and their stream; only the last one may be
markup that has no end. -/
theorem reads_scan {source : Text} (clean : ((scan source).foldl Reading.step {}).faults = []) :
    ((scan source).foldl Reading.step {}).Reads (outline false (scan source))
      (stream false (scan source)) := by
  rcases fits_scan source with none | ⟨init, last, split, fits, opened, plain⟩
  · rw [none]
    exact follows_start.reads
  · rw [split] at clean ⊢
    rw [List.foldl_append, List.foldl_cons, List.foldl_nil] at clean ⊢
    have kept := step_faults_suffix (init.foldl Reading.step {}) last
    rw [clean, List.suffix_nil] at kept
    have follows := follows_start.foldl_step fits kept
    have inside := foldl_step_inside {} init
    rw [outline_append, stream_append]
    cases last with
    | markup raw =>
      rw [Item.stream, Item.stream, List.append_nil]
      exact follows.reads.markup (opened raw rfl) clean
    | text raw =>
      have fits : Fits (fun _ => True) (.text raw) := ⟨plain raw rfl, trivial⟩
      have finished := (follows.step fits clean).reads
      rw [inside] at finished
      exact finished

end Reading

/-- Taking a part to pieces loses nothing and adds nothing. If no fault is found, the pieces spell
items with the markup of the part and its character data outside text elements in the same order,
where only start tags of text elements may have got the attribute that keeps white space, and with
the same stream of character data inside text elements, in which each tag stands between braces. -/
theorem Layout.spelled_of_part {source : Text} (clean : (Layout.ofPart source).faults = []) :
    ∃ items, List.Forall₂ Piece.Spells (Layout.ofPart source).pieces.toList items ∧
      List.Forall₂ Item.Kept (Item.outline false (Item.scan source)) (Item.outline false items) ∧
      Item.stream false items = Item.stream false (Item.scan source) := by
  have settled : ((Item.scan source).foldl Reading.step {}).abandon.faults = [] :=
    List.reverse_eq_nil_iff.mp clean
  have free := Reading.pending_eq_none_of_abandon settled
  have kept : ((Item.scan source).foldl Reading.step {}).abandon =
      (Item.scan source).foldl Reading.step {} := Reading.abandon_of_pending free
  rw [kept] at settled
  obtain ⟨items, spells, outline, stream, _⟩ := (Reading.reads_scan settled).spelled free
  refine ⟨items, ?_, outline, stream⟩
  rw [Layout.ofPart, kept]
  exact spells

/-- A tag that is spread over two text elements. -/
def splitTag : Text :=
  "<w:p><w:t>a{na</w:t>b<w:t>me}c</w:t></w:p>".toList

theorem Layout.spelled_of_part_splitTag :
    ((Layout.ofPart splitTag).pieces.toList.filterMap Piece.tag?).map (·.name) =
        [['n', 'a', 'm', 'e']] ∧
      ∃ items, List.Forall₂ Piece.Spells (Layout.ofPart splitTag).pieces.toList items ∧
        List.Forall₂ Item.Kept (Item.outline false (Item.scan splitTag))
          (Item.outline false items) ∧
        Item.stream false items = Item.stream false (Item.scan splitTag) := by
  have clean : (Layout.ofPart splitTag).faults = [] := by decide +kernel
  exact ⟨by decide +kernel, Layout.spelled_of_part clean⟩

end WordMerge
