import WordMerge.Proofs.Template.Lossless

namespace WordMerge

/-- What matters to the tags of a part: the characters of its text elements and the sides of its
paragraphs. -/
inductive Sign where
  | letter (c : Char)
  | paragraph (side : Side)
  deriving DecidableEq, Repr

namespace Sign

/-- The character that a sign is, if it is one. -/
def letter? : Sign → Option Char
  | .letter c => some c
  | .paragraph _ => none

/-- The characters among some signs. -/
def letters (signs : List Sign) : Text :=
  signs.filterMap letter?

/-- Whether a sign is the end tag of a paragraph, the one border at which an opening brace stops
waiting. -/
def isParagraphEnd (sign : Sign) : Bool :=
  sign == .paragraph .closing

/-- Whether a paragraph starts or ends, or is passed whole. -/
def isBorder (sign : Sign) : Bool :=
  sign.letter?.isNone

/-- Whether no tag goes on behind a sign: at a brace, and at what is taken for a border. -/
def stops (border : Sign → Bool) (sign : Sign) : Bool :=
  sign == .letter '\x7b' || sign == .letter '\x7d' || border sign

/-- What stands behind each opening brace, in order. -/
def behindBraces : List Sign → List (List Sign)
  | [] => []
  | sign :: rest => if sign = .letter '\x7b' then rest :: behindBraces rest else behindBraces rest

/-- What some markup means for tags. -/
def ofMarkup (raw : Text) : List Sign :=
  match Edge.ofMarkup? raw with
  | some edge => if edge.name = paragraphName then [.paragraph edge.side] else []
  | none => []

/-- The sign of a paragraph end and its role go together. -/
theorem ofMarkup_cases (raw : Text) :
    Landmark.ofMarkup raw = .paragraphEnd ∧ ofMarkup raw = [.paragraph .closing] ∨
      Landmark.ofMarkup raw ≠ .paragraphEnd ∧
        (ofMarkup raw = [] ∨ ∃ side, side ≠ .closing ∧ ofMarkup raw = [.paragraph side]) := by
  unfold Landmark.ofMarkup ofMarkup
  rcases Edge.ofMarkup? raw with _ | ⟨name, side⟩
  · exact .inr ⟨by decide, .inl rfl⟩
  · by_cases paragraph : name = paragraphName
    · subst paragraph
      cases side with
      | closing => exact .inl ⟨rfl, rfl⟩
      | opening => exact .inr ⟨by decide, .inr ⟨.opening, by decide, rfl⟩⟩
      | empty => exact .inr ⟨by decide, .inr ⟨.empty, by decide, rfl⟩⟩
    · have other : Landmark.ofEdge ⟨name, side⟩ ≠ .paragraphEnd := fun role =>
        paragraph (congrArg Edge.name ((Landmark.ofEdge_eq_iff rfl).mp role))
      exact .inr ⟨other, .inl (if_neg paragraph)⟩

/-- Every opening brace comes with all that stands behind it. -/
theorem mem_behindBraces {signs rest : List Sign} :
    rest ∈ behindBraces signs ↔ ∃ before, signs = before ++ .letter '\x7b' :: rest := by
  induction signs with
  | nil => simp [behindBraces]
  | cons sign signs ih =>
    have later : rest ∈ behindBraces signs →
        ∃ before, sign :: signs = before ++ .letter '\x7b' :: rest := by
      intro member
      obtain ⟨before, rfl⟩ := ih.mp member
      exact ⟨sign :: before, rfl⟩
    rw [behindBraces]
    constructor
    · intro member
      split at member
      · next here =>
        rcases List.mem_cons.mp member with rfl | member
        · exact ⟨[], by rw [here, List.nil_append]⟩
        · exact later member
      · exact later member
    · rintro ⟨before, split⟩
      rcases List.cons_eq_append_iff.mp split with ⟨rfl, same⟩ | ⟨before, rfl, rfl⟩
      · cases same
        simp
      · have member := ih.mpr ⟨before, rfl⟩
        split
        · exact List.mem_cons_of_mem _ member
        · exact member

end Sign

/-- The signs in some items, which begin inside a text element or not. -/
def Item.signs (inside : Bool) : List Item → List Sign
  | [] => []
  | .markup raw :: rest =>
    Sign.ofMarkup raw ++ signs (insideAfter inside (.markup raw)) rest
  | .text raw :: rest => if inside then raw.map .letter ++ signs inside rest else signs inside rest

/-- The signs in a part. -/
def Sign.ofPart (source : Text) : List Sign :=
  Item.signs false (Item.scan source)

/-- What an opening brace comes to. -/
structure Opening where
  /-- The characters behind it up to the next brace or border. -/
  raw : Text
  /-- Whether a closing brace ends them. -/
  closed : Bool
  deriving DecidableEq, Repr

namespace Opening

/-- What an opening brace comes to, by the characters behind it so far and the signs that follow. -/
def ofSigns (border : Sign → Bool) (before : Text) (rest : List Sign) : Opening where
  raw := before ++ Sign.letters (rest.takeWhile (!Sign.stops border ·))
  closed := (rest.dropWhile (!Sign.stops border ·)).head? == some (.letter '\x7d')

/-- The tag that a closed brace comes to, if its name is not blank. -/
def tag? (opening : Opening) : Option Tag :=
  if opening.closed then Tag.ofText? (Entity.unescape opening.raw) else none

/-- The report of a brace that is not closed. -/
def fault? (opening : Opening) : Option TagFault :=
  if opening.closed then none
  else some (.unclosedTag (Text.trim (Entity.unescape opening.raw)))

/-- The opening braces among some signs and what they come to. -/
def all (border : Sign → Bool) (signs : List Sign) : List Opening :=
  (Sign.behindBraces signs).map (ofSigns border [])

/-- Between the braces of a tag stand the characters of its text and no border. -/
theorem exists_braces {border : Sign → Bool} {signs : List Sign} {tag : Tag}
    (member : tag ∈ (all border signs).filterMap tag?) : ∃ before inner after,
      signs = before ++ .letter '\x7b' :: inner ++ .letter '\x7d' :: after ∧
      (∀ sign ∈ inner, Sign.stops border sign = false) ∧
      Tag.ofText? (Entity.unescape (Sign.letters inner)) = some tag := by
  obtain ⟨opening, found, read⟩ := List.mem_filterMap.mp member
  obtain ⟨rest, behind, rfl⟩ := List.mem_map.mp found
  obtain ⟨before, rfl⟩ := Sign.mem_behindBraces.mp behind
  unfold tag? at read
  split at read
  · next closed =>
    rw [ofSigns, beq_iff_eq, List.head?_eq_some_iff] at closed
    obtain ⟨after, next⟩ := closed
    refine ⟨before, rest.takeWhile (!Sign.stops border ·), after, ?_, fun sign inside => ?_, read⟩
    · rw [List.append_assoc, List.cons_append, ← next, List.takeWhile_append_dropWhile]
    · simpa using List.all_eq_true.mp List.all_takeWhile sign inside
  · cases read

/-- If no border stands before what ends its characters, the ends of paragraphs say what a brace
comes to. -/
theorem ofSigns_isBorder {rest : List Sign}
    (flat : ∀ sign ∈ rest.takeWhile (!Sign.stops Sign.isParagraphEnd ·), sign.isBorder = false)
    (before : Text) : ofSigns Sign.isBorder before rest = ofSigns Sign.isParagraphEnd before rest := by
  have same : rest.takeWhile (!Sign.stops Sign.isBorder ·) =
        rest.takeWhile (!Sign.stops Sign.isParagraphEnd ·) ∧
      rest.dropWhile (!Sign.stops Sign.isBorder ·) =
        rest.dropWhile (!Sign.stops Sign.isParagraphEnd ·) := by
    induction rest with
    | nil => exact ⟨rfl, rfl⟩
    | cons sign rest ih =>
      by_cases inner : Sign.stops Sign.isParagraphEnd sign = false
      · rw [List.takeWhile_cons_of_pos (by simp [inner]), List.forall_mem_cons] at flat
        have passed : Sign.stops Sign.isBorder sign = false := by
          rw [Sign.stops, Bool.or_eq_false_iff] at inner ⊢
          exact ⟨inner.1, flat.1⟩
        simpa [inner, passed] using ih flat.2
      · have stopped : Sign.stops Sign.isBorder sign = true := by
          cases sign with
          | letter c => simpa [Sign.stops, Sign.isParagraphEnd, Sign.isBorder, Sign.letter?,
            or_iff_not_imp_left] using inner
          | paragraph side => simp [Sign.stops, Sign.isBorder, Sign.letter?]
        simp [inner, stopped]
  rw [ofSigns, ofSigns, same.1, same.2]

/-- The opening braces among some signs, when a tag with some characters may be under way before. -/
def pursue (border : Sign → Bool) (under : Option Text) (signs : List Sign) : List Opening :=
  (under.map (ofSigns border · signs)).toList ++ all border signs

/-- The brace of a tag that is given up. -/
def broken (under : Option Text) : List Opening :=
  (under.map (⟨·, false⟩)).toList

section Pursue

variable {border : Sign → Bool} {sign : Sign} (under : Option Text) (raw : Text) (rest : List Sign)

theorem pursue_nil : pursue border under [] = broken under := by
  cases under <;> simp [pursue, broken, ofSigns, all, Sign.behindBraces, Sign.letters]

theorem pursue_brace : pursue border under (.letter '\x7b' :: rest) =
    broken under ++ pursue border (some []) rest := by
  cases under <;> simp [pursue, broken, ofSigns, all, Sign.behindBraces, Sign.stops, Sign.letters]

theorem pursue_closing : pursue border (some raw) (.letter '\x7d' :: rest) =
    ⟨raw, true⟩ :: pursue border none rest := by
  simp [pursue, ofSigns, all, Sign.behindBraces, Sign.stops, Sign.letters]

theorem pursue_none (other : sign ≠ .letter '\x7b') :
    pursue border none (sign :: rest) = pursue border none rest := by
  simp [pursue, all, Sign.behindBraces, other]

theorem pursue_paragraphEnd : pursue Sign.isParagraphEnd under (.paragraph .closing :: rest) =
    broken under ++ pursue Sign.isParagraphEnd none rest := by
  cases under <;>
    simp [pursue, broken, ofSigns, all, Sign.behindBraces, Sign.stops, Sign.isParagraphEnd,
      Sign.letters]

/-- Any other sign is passed, and its character taken. -/
theorem pursue_inner (inner : Sign.stops border sign = false) : pursue border under (sign :: rest) =
    pursue border (under.map (· ++ sign.letter?.toList)) rest := by
  have other : sign ≠ .letter '\x7b' := by
    rintro rfl
    simp [Sign.stops] at inner
  cases under with
  | none => exact pursue_none rest other
  | some raw =>
    have spelled (signs : List Sign) :
        Sign.letters (sign :: signs) = sign.letter?.toList ++ Sign.letters signs := by
      cases sign <;> rfl
    simp [pursue, ofSigns, all, Sign.behindBraces, other, inner, spelled]

end Pursue

end Opening

/-- The tags of a layout, in order. -/
def Layout.tags (layout : Layout) : List Tag :=
  (layout.pieces.toList.filterMap Piece.tag?).map (·.toTag)

namespace Reading

open Opening

variable {r s t : Reading} {past later : List Sign} {done more : List Opening}

/-- The reports of braces that were not closed so far. -/
def unclosed (r : Reading) : List TagFault :=
  r.faults.reverse.filter (·.kind == .unclosedTag)

/-- The characters so far of the tag under way. -/
def under (r : Reading) : Option Text :=
  r.pending.map (·.raw.reverse)

/-- The place kept for the tag under way is empty, and no tag stands behind it. -/
def Waits (r : Reading) : Prop :=
  ∀ tag, r.pending = some tag → ∃ front back, r.pieces.toList = front ++ .verbatim [] :: back ∧
    front.length = tag.slot ∧ back.filterMap Piece.tag? = []

/-- A reading that goes on from another one and has found out what some braces come to. -/
structure Gains (r s : Reading) (done : List Opening) : Prop where
  tags : s.layout.tags = r.layout.tags ++ done.filterMap Opening.tag?
  unclosed : s.unclosed = r.unclosed ++ done.filterMap Opening.fault?

/-- A reading that went on over some signs: what it has found out and what it will find out later is
what was still to come before. -/
structure Advances (r s : Reading) (past : List Sign) : Prop where
  waits : s.Waits
  found : ∃ done, Gains r s done ∧ ∀ later, pursue Sign.isParagraphEnd r.under (past ++ later) =
    done ++ pursue Sign.isParagraphEnd s.under later

theorem Gains.trans (first : Gains r s done) (second : Gains s t more) :
    Gains r t (done ++ more) :=
  ⟨by rw [second.tags, first.tags, List.filterMap_append, List.append_assoc],
    by rw [second.unclosed, first.unclosed, List.filterMap_append, List.append_assoc]⟩

theorem Advances.trans {next : List Sign} (first : Advances r s past) (second : Advances s t next) :
    Advances r t (past ++ next) := by
  obtain ⟨done, gains, ahead⟩ := first.found
  obtain ⟨more, gainsMore, aheadMore⟩ := second.found
  refine ⟨second.waits, done ++ more, gains.trans gainsMore, fun later => ?_⟩
  rw [List.append_assoc, ahead, aheadMore, List.append_assoc]

theorem Waits.push (waits : r.Waits) {raw : Text} (pieces : s.pieces = r.pieces.push (.verbatim raw))
    (pending : s.pending = r.pending) : s.Waits := by
  intro tag here
  obtain ⟨front, back, split, slot, bare⟩ := waits tag (pending.symm.trans here)
  refine ⟨front, back ++ [.verbatim raw], ?_, slot, ?_⟩
  · rw [pieces, Array.toList_push, split, List.append_assoc, List.cons_append]
  · rw [List.filterMap_append, bare]
    rfl

theorem waits_of_idle (idle : s.pending = none) : s.Waits := by
  intro tag here
  rw [idle] at here
  cases here

theorem tags_push {raw : Text} (pieces : s.pieces = r.pieces.push (.verbatim raw)) :
    s.layout.tags = r.layout.tags := by
  rw [Layout.tags, Layout.tags, layout, layout, pieces, Array.toList_push, List.filterMap_append]
  simp [Piece.tag?]

theorem Advances.stay (waits : r.Waits)
    (silent : ∀ later, pursue Sign.isParagraphEnd r.under (past ++ later) =
      pursue Sign.isParagraphEnd r.under later) : Advances r r past :=
  ⟨waits, [], ⟨by simp, by simp⟩, silent⟩

/-- Verbatim XML is passed while a tag under way stays as it is. -/
theorem Advances.push (waits : r.Waits) {raw : Text}
    (pieces : s.pieces = r.pieces.push (.verbatim raw)) (faults : s.faults = r.faults)
    (pending : s.pending = r.pending)
    (silent : ∀ later, pursue Sign.isParagraphEnd r.under (past ++ later) =
      pursue Sign.isParagraphEnd r.under later) : Advances r s past := by
  refine ⟨waits.push pieces pending, [], ⟨?_, ?_⟩, fun later => ?_⟩
  · rw [tags_push pieces, List.filterMap_nil, List.append_nil]
  · rw [unclosed, unclosed, faults, List.filterMap_nil, List.append_nil]
  · rw [silent, List.nil_append, under, under, pending]

theorem filterMap_tag?_broken (under : Option Text) :
    (broken under).filterMap Opening.tag? = [] := by
  cases under <;> rfl

/-- Giving up the tag under way reports its brace. -/
theorem unclosed_abandon (r : Reading) : r.abandon.unclosed =
    r.unclosed ++ (broken r.under).filterMap Opening.fault? := by
  unfold abandon unclosed under broken
  cases r.pending with
  | none => simp
  | some tag => simp [report, TagFault.kind, Opening.fault?]

/-- Verbatim XML is passed and the tag under way is given up. -/
theorem Gains.abandon {raw : Text} (pieces : s.pieces = r.pieces.push (.verbatim raw))
    (faults : s.faults = r.abandon.faults) : Gains r s (broken r.under) := by
  refine ⟨?_, ?_⟩
  · rw [tags_push pieces, filterMap_tag?_broken, List.append_nil]
  · exact (congrArg (·.reverse.filter (·.kind == .unclosedTag)) faults).trans (unclosed_abandon r)

theorem Advances.plain (waits : r.Waits) (text : Text) : Advances r (r.plain text) [] := by
  rcases r.plain_cases text with ⟨_, same⟩ | same | ⟨number, same⟩
  · rw [same]
    exact .stay waits fun later => rfl
  · rw [same]
    exact .push waits rfl rfl rfl fun later => rfl
  · rw [same]
    exact .push waits rfl rfl rfl fun later => rfl

/-- An opening brace ends the tag under way and begins another one. -/
theorem Advances.beginTag (r : Reading) :
    Advances r r.abandon.beginTag [.letter '\x7b'] := by
  have pieces : r.abandon.beginTag.pieces = r.pieces.push (.verbatim []) := by
    simp [Reading.beginTag, Reading.push]
  refine ⟨fun tag here => ?_, _, .abandon pieces rfl, fun later => ?_⟩
  · cases here
    refine ⟨r.pieces.toList, [], ?_, ?_, rfl⟩
    · rw [pieces, Array.toList_push]
    · simp
  · exact pursue_brace r.under later

theorem filterMap_tag?_modify {f : Piece → Piece} (keeps : ∀ piece, (f piece).tag? = piece.tag?)
    (pieces : List Piece) (place : Nat) :
    (pieces.modify place f).filterMap Piece.tag? = pieces.filterMap Piece.tag? := by
  induction pieces generalizing place with
  | nil => simp
  | cons piece rest ih => cases place <;> simp [List.filterMap_cons, keeps, ih]

theorem filterMap_tag?_preserveAt (pieces : Array Piece) (place : Nat) :
    (preserveAt pieces place).toList.filterMap Piece.tag? =
      pieces.toList.filterMap Piece.tag? := by
  rw [preserveAt, Array.toList_modify]
  exact filterMap_tag?_modify (fun piece => by cases piece <;> rfl) _ _

/-- A tag that is finished comes behind the tags so far. -/
theorem filterMap_tag?_finished (waits : r.Waits) {pending : PendingTag}
    (here : r.pending = some pending) (tag : PlacedTag) :
    (finished r.pieces pending tag).toList.filterMap Piece.tag? =
      r.pieces.toList.filterMap Piece.tag? ++ [tag] := by
  obtain ⟨front, back, split, slot, bare⟩ := waits pending here
  have placed : (r.pieces.setIfInBounds pending.slot (.tag tag)).toList =
      front ++ .tag tag :: back := by
    rw [Array.toList_setIfInBounds, split, ← slot, List.set_append_right _ _ (Nat.le_refl _)]
    simp
  have whole : (finished r.pieces pending tag).toList.filterMap Piece.tag? =
      (front ++ .tag tag :: back).filterMap Piece.tag? := by
    rw [← placed]
    unfold finished
    cases pending.textStart with
    | none => rfl
    | some place => exact filterMap_tag?_preserveAt _ place
  rw [whole, split, List.filterMap_append, List.filterMap_append, List.filterMap_cons,
    List.filterMap_cons, bare]
  simp [Piece.tag?]

/-- At a closing brace the characters behind the opening one are a tag, or their absence is a fault
of another kind. -/
theorem Gains.finishTag (waits : r.Waits) {pending : PendingTag} (here : r.pending = some pending) :
    Gains r ({ r with pending := none }.finishTag pending) [⟨pending.raw.reverse, true⟩] := by
  unfold Reading.finishTag
  dsimp only
  split
  · next blank => constructor <;> simp [Layout.tags, layout, Reading.unclosed, report, Opening.tag?,
      Opening.fault?, TagFault.kind, blank]
  · next tag read =>
    constructor
    · have placed := filterMap_tag?_finished waits here
        ⟨tag, pending.paragraph, pending.row, pending.cell⟩
      show List.map _ ((finished r.pieces pending _).toList.filterMap Piece.tag?) = _
      rw [placed]
      simp [Layout.tags, layout, Opening.tag?, read]
    · simp [Reading.unclosed, Opening.fault?]

/-- A closing brace gives the tag, or the fault, that the search for it gives. -/
theorem Advances.finishTag (waits : r.Waits) {pending : PendingTag} (here : r.pending = some pending) :
    Advances r ({ r with pending := none }.finishTag pending) [.letter '\x7d'] := by
  have under : r.under = some pending.raw.reverse := by rw [Reading.under, here]; rfl
  have idle : ({ r with pending := none }.finishTag pending).pending = none := by
    unfold Reading.finishTag
    dsimp only
    split <;> rfl
  refine ⟨waits_of_idle idle, _, .finishTag waits here, fun later => ?_⟩
  rw [under, List.singleton_append, pursue_closing, Reading.under, idle]
  rfl

/-- A fault of a closing brace says nothing of an opening one. -/
theorem Advances.unopened (waits : r.Waits) (free : r.pending = none) (text : Text) :
    Advances r (r.report (.unopenedTag text)) [.letter '\x7d'] := by
  have idle : r.under = none := by rw [under, free]; rfl
  refine ⟨waits, [], ⟨?_, ?_⟩, fun later => ?_⟩
  · simp [Layout.tags, layout, report]
  · simp [unclosed, report, TagFault.kind]
  · rw [idle, List.singleton_append, pursue_none later (by simp)]
    show _ = pursue Sign.isParagraphEnd r.under later
    rw [idle]

/-- Another character belongs to the tag under way. -/
theorem Advances.extend (waits : r.Waits) {pending : PendingTag} (here : r.pending = some pending)
    {c : Char} (opens : c ≠ '\x7b') (closes : c ≠ '\x7d') :
    Advances r { r with pending := some { pending with raw := c :: pending.raw } } [.letter c] := by
  have inner : Sign.stops Sign.isParagraphEnd (.letter c) = false := by
    simp [Sign.stops, Sign.isParagraphEnd, opens, closes]
  refine ⟨fun tag found => ?_, [], ⟨by simp [Layout.tags, layout], by simp [unclosed]⟩, fun later => ?_⟩
  · cases found
    exact waits pending here
  · rw [List.singleton_append, pursue_inner r.under later inner]
    simp [under, here, Sign.letter?]

/-- The character data of a text element is passed, of which `before` is no part of a tag. -/
theorem Advances.passes {before rest : Text} {final : Reading} (passes : r.Passes before rest final)
    (waits : r.Waits) : Advances r final (rest.map .letter) := by
  induction passes with
  | settle _ => exact .plain waits _
  | wait _ => exact .stay waits fun later => rfl
  | @first r before rest final free _ ih =>
    have plain := Advances.plain waits before.reverse
    have begun := plain.trans (.beginTag (r.plain before.reverse))
    rw [abandon_of_pending ((plain_pending r _).trans free)] at begun
    exact begun.trans (ih begun.waits)
  | @again r _ _ _ _ _ _ ih =>
    have begun := Advances.beginTag r
    exact begun.trans (ih begun.waits)
  | finish under _ ih =>
    have finished := Advances.finishTag waits under
    exact finished.trans (ih finished.waits)
  | @unopened r before _ _ free _ ih =>
    have reported := Advances.unopened waits free (Text.trim (Entity.unescape before.reverse))
    exact reported.trans (ih reported.waits)
  | extend under opens closes _ ih =>
    have extended := Advances.extend waits under opens closes
    exact extended.trans (ih extended.waits)
  | @hold r _ _ _ c free opens _ _ ih =>
    have idle : r.under = none := by rw [under, free]; rfl
    have passed : Advances r r [.letter c] := by
      refine .stay waits fun later => ?_
      rw [idle, List.singleton_append, pursue_none later (by simpa using opens)]
    exact passed.trans (ih waits)

/-- Only the end of a paragraph matters to the tag under way. -/
theorem enter_of_ne {role : Landmark} (other : role ≠ .paragraphEnd) (r : Reading) :
    (r.enter role).faults = r.faults ∧ (r.enter role).pending = r.pending := by
  cases role with
  | paragraphEnd => exact absurd rfl other
  | rowEnd =>
    show r.closeRow.faults = _ ∧ r.closeRow.pending = _
    unfold closeRow
    split <;> exact ⟨rfl, rfl⟩
  | _ => exact ⟨rfl, rfl⟩

/-- The end of a paragraph ends the tag under way, and no other markup does. -/
theorem Advances.markup (waits : r.Waits) (raw : Text) :
    Advances r (r.markup raw) (Sign.ofMarkup raw) := by
  rcases Sign.ofMarkup_cases raw with ⟨role, sign⟩ | ⟨role, silent⟩
  · have faults : (r.markup raw).faults = r.abandon.faults := by
      rw [Reading.markup, role]
      exact closeParagraph_faults r
    have idle : (r.markup raw).pending = none := by
      rw [Reading.markup, role]
      show r.closeParagraph.pending = none
      unfold closeParagraph
      dsimp only
      split <;> simp
    refine ⟨waits_of_idle idle, _, .abandon (markup_pieces r raw) faults, fun later => ?_⟩
    have still : (r.markup raw).under = none := by rw [under, idle]; rfl
    rw [sign, List.singleton_append, pursue_paragraphEnd, still]
  · obtain ⟨faults, pending⟩ := enter_of_ne role r
    refine .push waits (markup_pieces r raw) faults pending fun later => ?_
    rcases silent with sign | ⟨side, other, sign⟩
    · rw [sign, List.nil_append]
    · have inner : Sign.stops Sign.isParagraphEnd (.paragraph side) = false := by
        simpa [Sign.stops, Sign.isParagraphEnd] using other
      rw [sign, List.singleton_append, pursue_inner r.under later inner]
      simp [Sign.letter?]

theorem Advances.step (waits : r.Waits) (item : Item) :
    Advances r (r.step item) (Item.signs r.textStart.isSome [item]) := by
  cases item with
  | markup raw =>
    rw [Item.signs, Item.signs, List.append_nil]
    exact .markup waits raw
  | text raw =>
    unfold Reading.step Item.signs Item.signs
    dsimp only
    split
    · rw [List.append_nil]
      exact .passes (r.passes_characters [] raw) waits
    · exact .push waits rfl rfl rfl fun later => rfl

/-- Reading items finds what the search through their signs finds. -/
theorem Advances.foldl_step (waits : r.Waits) (items : List Item) :
    Advances r (items.foldl Reading.step r) (Item.signs r.textStart.isSome items) := by
  induction items generalizing r with
  | nil => exact .stay waits fun later => rfl
  | cons item rest ih =>
    have passed := Advances.step waits item
    have whole : Item.signs r.textStart.isSome (item :: rest) =
        Item.signs r.textStart.isSome [item] ++ Item.signs (r.step item).textStart.isSome rest := by
      rw [step_inside]
      cases item with
      | markup raw => simp [Item.signs]
      | text raw =>
        cases r.textStart.isSome <;> simp [Item.signs, Item.insideAfter]
    rw [whole]
    exact passed.trans (ih passed.waits)

/-- At its end a reading has found out what every opening brace comes to. -/
theorem gains_scan (source : Text) :
    Gains {} ((Item.scan source).foldl step {}).abandon
      (all Sign.isParagraphEnd (Sign.ofPart source)) := by
  obtain ⟨_, done, gains, ahead⟩ := Advances.foldl_step (waits_of_idle rfl : Waits {})
    (Item.scan source)
  generalize (Item.scan source).foldl step {} = r at gains ahead ⊢
  have whole := ahead []
  rw [List.append_nil, pursue_nil] at whole
  have settled : Gains r r.abandon (broken r.under) := by
    refine ⟨?_, unclosed_abandon r⟩
    rw [filterMap_tag?_broken, List.append_nil, Layout.tags, layout, abandon_pieces]
    rfl
  have found := gains.trans settled
  rw [← whole] at found
  exact found

end Reading

namespace Layout

/-- The tags of a part and the reports of its opening braces, where tags do not go on behind a
border. -/
structure Confined (border : Sign → Bool) (source : Text) : Prop where
  /-- The tags are those that closed braces come to. -/
  tags : (ofPart source).tags = (Opening.all border (Sign.ofPart source)).filterMap Opening.tag?
  /-- The braces that are not closed are reported, and no others. -/
  unclosed : (ofPart source).faults.filter (·.kind == .unclosedTag) =
    (Opening.all border (Sign.ofPart source)).filterMap Opening.fault?
  /-- No border stands between the braces of a tag. -/
  within : ∀ tag ∈ (ofPart source).tags, ∃ before inner after,
    Sign.ofPart source = before ++ .letter '\x7b' :: inner ++ .letter '\x7d' :: after ∧
    (∀ sign ∈ inner, Sign.stops border sign = false) ∧
    Tag.ofText? (Entity.unescape (Sign.letters inner)) = some tag

/-- Whether no paragraph begins between an opening brace and the next brace or paragraph end. -/
def Flat (source : Text) : Prop :=
  ∀ rest ∈ Sign.behindBraces (Sign.ofPart source),
    ∀ sign ∈ rest.takeWhile (!Sign.stops Sign.isParagraphEnd ·), sign.isBorder = false

instance (source : Text) : Decidable (Flat source) :=
  inferInstanceAs (Decidable (∀ rest ∈ Sign.behindBraces (Sign.ofPart source),
    ∀ sign ∈ rest.takeWhile (!Sign.stops Sign.isParagraphEnd ·), sign.isBorder = false))

/-- No end of a paragraph stands between the braces of a tag, and an opening brace that is not closed
before the next brace or paragraph end is reported and comes to no tag. Where no paragraph begins
behind a brace, the same holds with the starts of paragraphs for borders too. -/
theorem confined_of_part (source : Text) :
    Confined Sign.isParagraphEnd source ∧ (Flat source → Confined Sign.isBorder source) := by
  have gains := Reading.gains_scan source
  have tags : (ofPart source).tags =
      (Opening.all Sign.isParagraphEnd (Sign.ofPart source)).filterMap Opening.tag? := gains.tags
  have unclosed : (ofPart source).faults.filter (·.kind == .unclosedTag) =
      (Opening.all Sign.isParagraphEnd (Sign.ofPart source)).filterMap Opening.fault? :=
    gains.unclosed
  refine ⟨⟨tags, unclosed, fun tag member => Opening.exists_braces (tags ▸ member)⟩, fun flat => ?_⟩
  have same : Opening.all Sign.isBorder (Sign.ofPart source) =
      Opening.all Sign.isParagraphEnd (Sign.ofPart source) :=
    List.map_congr_left fun rest behind => Opening.ofSigns_isBorder (flat rest behind) []
  rw [← same] at tags unclosed
  exact ⟨tags, unclosed, fun tag member => Opening.exists_braces (tags ▸ member)⟩

/-- A tag in two runs, and a brace whose partner stands in the next paragraph. -/
def strayBrace : Text :=
  "<w:p><w:t>{a</w:t><w:t>b} {c</w:t></w:p><w:p><w:t>d}</w:t></w:p>".toList

theorem confined_of_part_strayBrace : Flat strayBrace ∧ Confined Sign.isBorder strayBrace :=
  have flat : Flat strayBrace := by
    unfold strayBrace
    -- spelled out, since a long string literal is slow to evaluate
    rewrite [String.toList_ofList]
    decide +kernel
  ⟨flat, (confined_of_part strayBrace).2 flat⟩

/-- A brace before a paragraph inside its own paragraph, and its partner inside the inner one. -/
def innerBrace : Text :=
  "<w:p><w:r><w:t>{a</w:t></w:r><w:p><w:r><w:t>b}</w:t></w:r></w:p></w:p>".toList

/-- A tag goes on behind the start of a paragraph inside its own one. -/
theorem not_confined_innerBrace : ¬ Confined Sign.isBorder innerBrace := by
  intro confined
  have found : (ofPart innerBrace).tags = [⟨.value, ['a', 'b']⟩] := by
    unfold innerBrace
    rewrite [String.toList_ofList]
    decide +kernel
  have none : (Opening.all Sign.isBorder (Sign.ofPart innerBrace)).filterMap Opening.tag? = [] := by
    unfold innerBrace
    rewrite [String.toList_ofList]
    decide +kernel
  have tags := confined.tags
  rw [found, none] at tags
  cases tags

end Layout

end WordMerge
