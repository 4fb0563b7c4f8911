import WordMerge.Proofs.Render.Alike
import WordMerge.Proofs.Template.Surroundings

namespace WordMerge

/-- The things of one row, by number, as things of another row in the same order. -/
structure Renumbers (ids : List Nat) (size size' : Nat) : Prop where
  length : ids.length = size
  ordered : ids.Pairwise (· < ·)
  inside : ∀ id ∈ ids, id < size'

/-- A thing of the one row has a number in the other one. -/
def Sends (ids : List Nat) (a b : Nat) : Prop :=
  ids[a]? = some b

section Numbers

variable {ids more : List Nat} {size size' a b a' b' last : Nat}

theorem Sends.append (sends : Sends ids a b) : Sends (ids ++ more) a b :=
  (List.getElem?_append_left (List.getElem?_eq_some_iff.mp sends).1).trans sends

theorem sends_append_iff : Sends (ids ++ [last]) a b ↔
    Sends ids a b ∨ a = ids.length ∧ b = last := by
  unfold Sends
  by_cases inside : a < ids.length
  · rw [List.getElem?_append_left inside]
    exact ⟨.inl, fun either => either.elim id fun both => by omega⟩
  · rw [List.getElem?_append_right (by omega), List.getElem?_eq_none (l := ids) (by omega)]
    by_cases same : a = ids.length
    · subst same
      simp [eq_comm]
    · have beyond : a - ids.length ≠ 0 := by omega
      simp [beyond, same]

theorem Sends.unique (first : Sends ids a b) (second : Sends ids a b') : b = b' :=
  Option.some.inj (first.symm.trans second)

namespace Renumbers

/-- A new thing in both gets the next number in both. -/
theorem push (renumbers : Renumbers ids size size') :
    Renumbers (ids ++ [size']) (size + 1) (size' + 1) := by
  obtain ⟨length, ordered, inside⟩ := renumbers
  refine ⟨by rw [List.length_append, length]; rfl, ?_, fun id member => ?_⟩
  · rw [List.pairwise_append]
    exact ⟨ordered, List.pairwise_singleton _ _, fun id member other single =>
      List.mem_singleton.mp single ▸ inside id member⟩
  · rcases List.mem_append.mp member with old | new
    · exact Nat.lt_succ_of_lt (inside id old)
    · rw [List.mem_singleton.mp new]
      exact Nat.lt_succ_self size'

theorem grow (renumbers : Renumbers ids size size') (upTo : size' ≤ last) :
    Renumbers ids size last :=
  ⟨renumbers.length, renumbers.ordered, fun id member =>
    Nat.lt_of_lt_of_le (renumbers.inside id member) upTo⟩

/-- One more thing has the number behind all others. -/
theorem sends_last (renumbers : Renumbers ids size size') : Sends (ids ++ [last]) size last := by
  rw [← renumbers.length]
  simp [Sends]

theorem lt_size (renumbers : Renumbers ids size size') (sends : Sends ids a b) :
    a < size ∧ b < size' := by
  obtain ⟨inside, _⟩ := List.getElem?_eq_some_iff.mp sends
  exact ⟨renumbers.length ▸ inside, renumbers.inside b (List.mem_of_getElem? sends)⟩

theorem exists_sends (renumbers : Renumbers ids size size') (inside : a < size) :
    ∃ b, Sends ids a b := by
  rw [← renumbers.length] at inside
  exact ⟨ids[a], List.getElem?_eq_getElem inside⟩

theorem lt_of_lt (renumbers : Renumbers ids size size') (first : Sends ids a b)
    (second : Sends ids a' b') (before : a < a') : b < b' := by
  obtain ⟨inside, rfl⟩ := List.getElem?_eq_some_iff.mp first
  obtain ⟨inside', rfl⟩ := List.getElem?_eq_some_iff.mp second
  exact List.pairwise_iff_getElem.mp renumbers.ordered a a' inside inside' before

/-- Things are in the same order as their counterparts. -/
theorem lt_iff (renumbers : Renumbers ids size size') (first : Sends ids a b)
    (second : Sends ids a' b') : b < b' ↔ a < a' := by
  refine ⟨fun before => ?_, renumbers.lt_of_lt first second⟩
  by_contra behind
  rcases Nat.lt_or_eq_of_le (Nat.le_of_not_lt behind) with after | rfl
  · have := renumbers.lt_of_lt second first after
    omega
  · have := first.unique second
    omega

theorem eq_iff (renumbers : Renumbers ids size size') (first : Sends ids a b)
    (second : Sends ids a' b') : b = b' ↔ a = a' := by
  have forward := renumbers.lt_iff first second
  have backward := renumbers.lt_iff second first
  omega

/-- Numbers that may be missing are the same exactly if their counterparts are. -/
theorem rel_eq_iff (renumbers : Renumbers ids size size') {x y : Option Nat} {x' y' : Option Nat}
    (first : Option.Rel (Sends ids) x x') (second : Option.Rel (Sends ids) y y') :
    x' = y' ↔ x = y := by
  cases first with
  | none => cases second <;> simp
  | some here =>
    cases second with
    | none => simp
    | some there => simp [renumbers.eq_iff here there]

end Renumbers

theorem rel_append {x y : Option Nat} (rel : Option.Rel (Sends ids) x y) :
    Option.Rel (Sends (ids ++ more)) x y := by
  cases rel with
  | none => exact .none
  | some here => exact .some here.append

theorem forall₂_append {x y : List Nat} (rel : List.Forall₂ (Sends ids) x y) :
    List.Forall₂ (Sends (ids ++ more)) x y :=
  rel.imp fun _ _ here => here.append

theorem rel_head? {x y : List Nat} (rel : List.Forall₂ (Sends ids) x y) :
    Option.Rel (Sends ids) x.head? y.head? := by
  cases rel with
  | nil => exact .none
  | cons here _ => exact .some here

end Numbers

namespace Piece

/-- The pieces from one place to another one. -/
def stretch (pieces : Array Piece) (first next : Nat) : List Piece :=
  (pieces.toList.take next).drop first

section Stretch

variable {pieces later : Array Piece} {more : List Piece} {first next place : Nat} {piece : Piece}

theorem stretch_of_grown (grown : later.toList = pieces.toList ++ more) (inside : next ≤ pieces.size) :
    stretch later first next = stretch pieces first next := by
  rw [stretch, stretch, grown, List.take_append_of_le_length (by simpa using inside)]

theorem stretch_size_of_grown (grown : later.toList = pieces.toList ++ more)
    (inside : first ≤ pieces.size) :
    stretch later first later.size = stretch pieces first pieces.size ++ more := by
  have all : later.toList.take later.size = later.toList := List.take_of_length_le (by simp)
  have every : pieces.toList.take pieces.size = pieces.toList := List.take_of_length_le (by simp)
  rw [stretch, stretch, all, every, grown, List.drop_append_of_le_length (by simpa using inside)]

/-- A stretch stays as it is while other pieces change. -/
theorem stretch_set_of_outside (outside : place < first ∨ next ≤ place) :
    stretch (pieces.setIfInBounds place piece) first next = stretch pieces first next := by
  rw [stretch, stretch, Array.toList_setIfInBounds, List.take_set]
  rcases outside with before | behind
  · rw [List.drop_set, if_pos before]
  · rw [List.set_eq_of_length_le (by rw [List.length_take]; omega)]

/-- The pieces from a place on begin with the one that stands there. -/
theorem stretch_eq_cons (found : pieces[first]? = some piece) (before : first < next) :
    stretch pieces first next = piece :: stretch pieces (first + 1) next := by
  have here : (pieces.toList.take next)[first]? = some piece := by
    rw [List.getElem?_take, if_pos before, Array.getElem?_toList, found]
  obtain ⟨inside, same⟩ := List.getElem?_eq_some_iff.mp here
  rw [stretch, List.drop_eq_getElem_cons inside, same]
  rfl

end Stretch

/-- What becomes of a piece: XML comes to the same in some pieces, and behind a tag may stand XML that
comes to nothing. -/
inductive SplitAs (opened : List Text) : Piece → List Piece → Prop
  | xml {xml first : Text} {row after : List Text} : XmlAlike opened [xml] (first :: row) after →
      SplitAs opened (.verbatim xml) ((first :: row).map .verbatim)
  | tag {s t : PlacedTag} {row : List Text} : s.toTag = t.toTag → XmlAlike opened [] row opened →
      SplitAs opened (.tag s) (.tag t :: row.map .verbatim)

/-- XML that comes to nothing may stand behind what a piece is split into. -/
theorem SplitAs.append {opened after : List Text} {piece : Piece} {block : List Piece} {row : List Text}
    (innermost : TextInnermost opened) (split : SplitAs opened piece block)
    (walked : Edge.walk opened piece.edges = some after) (idle : XmlAlike after [] row after) :
    SplitAs opened piece (block ++ row.map .verbatim) := by
  cases split with
  | @xml xml first rest between alike =>
    have left := alike.left
    rw [List.flatMap_singleton] at left
    have same : between = after := Option.some.inj (left.symm.trans walked)
    subst same
    have all := alike.append innermost idle
    rw [List.append_nil, List.cons_append] at all
    rw [← List.map_append]
    exact .xml all
  | @tag s t rest same alike =>
    cases walked
    have all := alike.append innermost idle
    rw [List.append_nil] at all
    rw [List.cons_append, ← List.map_append]
    exact .tag same all

/-- Pieces that are the same, or both start tags of text elements. -/
def Kin (a b : Piece) : Prop :=
  a = b ∨ ∃ x y, a = .verbatim x ∧ b = .verbatim y ∧ Edge.TextTag x ∧ Edge.TextTag y

end Piece

theorem Edge.TextTag.foldl_eq {raw : Text} (tag : Edge.TextTag raw) (p : PlainText) :
    (Item.scan raw).foldl PlainText.step p = { p with inText := true } := by
  have role : Landmark.ofMarkup raw = .textStart := by
    rw [Landmark.ofMarkup, tag.edge]
    decide
  rw [tag.cut.scan_eq, List.foldl_cons, List.foldl_nil, PlainText.step, role]

namespace Piece

/-- Start tags of text elements are as good as each other. -/
theorem xmlAlike_of_kin {opened after : List Text} {row : List Text} {block : List Piece}
    (kin : List.Forall₂ Kin (row.map .verbatim) block)
    (walked : Edge.walk opened (row.flatMap Edge.scan) = some after) :
    ∃ row', block = row'.map .verbatim ∧ XmlAlike opened row row' after := by
  have same : ∃ row', block = row'.map .verbatim ∧
      row'.flatMap Edge.scan = row.flatMap Edge.scan ∧
        ∀ p : PlainText, p.readXml row' = p.readXml row := by
    clear walked
    induction row generalizing block with
    | nil =>
      cases kin
      exact ⟨[], rfl, rfl, fun _ => rfl⟩
    | cons xml row ih =>
      cases kin with
      | @cons _ piece _ block here kin =>
        obtain ⟨row', rfl, edges, shown⟩ := ih kin
        rcases here with rfl | ⟨x, y, one, rfl, tag, tag'⟩
        · exact ⟨xml :: row', rfl, by simp [edges], fun p => shown _⟩
        · cases one
          refine ⟨y :: row', rfl, ?_, fun p => ?_⟩
          · rw [List.flatMap_cons, List.flatMap_cons, edges, tag.scan_eq, tag'.scan_eq]
          · rw [PlainText.readXml_cons, PlainText.readXml_cons, tag.foldl_eq, tag'.foldl_eq]
            exact shown _
  obtain ⟨row', rfl, edges, shown⟩ := same
  exact ⟨row', rfl, walked, edges ▸ walked, fun p _ => by rw [shown]; exact PlainText.Same.refl _⟩

/-- Pieces of the same kind are split in the same way. -/
theorem SplitAs.kin {opened : List Text} {piece piece' : Piece} {block block' : List Piece}
    (split : SplitAs opened piece block) (kin : Kin piece piece')
    (kinBlock : List.Forall₂ Kin block block') : SplitAs opened piece' block' := by
  cases split with
  | @xml xml first row after alike =>
    obtain ⟨row', rfl, more⟩ := xmlAlike_of_kin kinBlock alike.right
    have filled : row' ≠ [] := by
      rintro rfl
      cases kinBlock
    obtain ⟨first', rest', rfl⟩ := List.exists_cons_of_ne_nil filled
    have single : List.Forall₂ Kin ([xml].map .verbatim) [piece'] := .cons kin .nil
    obtain ⟨one, same, less⟩ := xmlAlike_of_kin single alike.left
    obtain ⟨xml', rfl, rfl⟩ : ∃ xml', one = [xml'] ∧ piece' = .verbatim xml' := by
      cases one with
      | nil => cases same
      | cons xml' others =>
        cases others with
        | nil => exact ⟨xml', rfl, (List.cons.inj same).1⟩
        | cons _ _ => cases (List.cons.inj same).2
    exact .xml ((less.symm.trans alike).trans more)
  | @tag s t row same alike =>
    cases kinBlock with
    | @cons _ head _ tail here kinTail =>
      obtain ⟨row', rfl, more⟩ := xmlAlike_of_kin kinTail alike.right
      rcases kin with rfl | ⟨x, y, one, -⟩
      · rcases here with rfl | ⟨x, y, one, -⟩
        · exact .tag same (alike.trans more)
        · cases one
      · cases one

/-- A tag takes the place of nothing. -/
theorem SplitAs.fill {opened : List Text} {rest : List Piece}
    (split : SplitAs opened (.verbatim []) (.verbatim [] :: rest)) {s t : PlacedTag}
    (same : s.toTag = t.toTag) : SplitAs opened (.tag s) (.tag t :: rest) := by
  generalize block : Piece.verbatim [] :: rest = all at split
  cases split with
  | @xml _ first row after alike =>
    rw [List.map_cons, List.cons.injEq] at block
    obtain ⟨empty, rfl⟩ := block
    cases empty
    have left := alike.left
    rw [List.flatMap_singleton, Edge.scan_of_plain (by simp), Edge.walk_nil] at left
    cases left
    refine .tag same ⟨rfl, ?_, fun p place => ?_⟩
    · have right := alike.right
      rwa [List.flatMap_cons, Edge.scan_of_plain (by simp), List.nil_append] at right
    · have shown := alike.shown p place
      rwa [PlainText.readXml_cons, PlainText.readXml_cons, Item.scan_nil] at shown

/-- A text grows at its end, and so does what becomes of it. -/
theorem SplitAs.extend {opened : List Text} {front back : Text} {block : List Piece}
    (split : SplitAs opened (.verbatim front) block) (plain : '<' ∉ front)
    (complete : Entity.Complete front) (plainBack : '<' ∉ back) :
    SplitAs opened (.verbatim (front ++ back)) (block ++ [back].map .verbatim) := by
  have none {text : Text} (plain : '<' ∉ text) : Edge.scan text = [] := Edge.scan_of_plain plain
  have both : '<' ∉ front ++ back := by simp [plain, plainBack]
  cases split with
  | @xml _ first row after alike =>
    have longer : XmlAlike opened [front ++ back] (first :: row ++ [back]) after := by
      refine ⟨?_, ?_, fun p place => ?_⟩
      · rw [← alike.left, List.flatMap_singleton, List.flatMap_singleton, none plain, none both]
      · rw [← alike.right, List.flatMap_append, List.flatMap_singleton, none plainBack,
          List.append_nil]
      · have joined := PlainText.foldl_scan_append (Text.whole_of_plain plain)
          (Text.referenced_of_plain plain complete) back p
        rw [PlainText.readXml_append]
        exact joined.trans ((alike.shown p place).foldl _)
    rw [← List.map_append]
    exact .xml longer

section Rows

variable {pieces pieces' : Array Piece} {place : Nat}

/-- A tag in the place of empty XML changes no edges. -/
theorem edgeRows_set (slot : pieces[place]? = some (.verbatim [])) (tag : PlacedTag) :
    edgeRows (pieces.setIfInBounds place (.tag tag)) = edgeRows pieces := by
  obtain ⟨inside, _⟩ := Array.getElem?_eq_some_iff.mp slot
  refine edgeRows_congr fun other => ?_
  rw [Array.getElem?_setIfInBounds]
  split
  · next here =>
    subst here
    rw [slot]
    simp [edges, Edge.scan_of_plain]
  · rfl

theorem landmarkAt_set (slot : pieces[place]? = some (.verbatim [])) (tag : PlacedTag) :
    landmarkAt (pieces.setIfInBounds place (.tag tag)) = landmarkAt pieces := by
  obtain ⟨inside, _⟩ := Array.getElem?_eq_some_iff.mp slot
  funext other
  rw [landmarkAt, landmarkAt, Array.getElem?_setIfInBounds]
  split
  · next here =>
    subst here
    rw [slot]
    simp [landmark, Landmark.ofMarkup, Edge.ofMarkup?]
  · rfl

theorem rel_getElem?_of_kin (kin : List.Forall₂ Kin pieces.toList pieces'.toList) (i : Nat) :
    Option.Rel Kin pieces[i]? pieces'[i]? := by
  have size := kin.length_eq
  simp only [Array.length_toList] at size
  by_cases inside : i < pieces.size
  · have here := (List.forall₂_iff_get.mp kin).2 i (by simpa using inside) (by simpa using size ▸ inside)
    rw [Array.getElem?_eq_getElem inside, Array.getElem?_eq_getElem (size ▸ inside)]
    exact .some (by simpa using here)
  · rw [Array.getElem?_eq_none (by omega), Array.getElem?_eq_none (by omega)]
    exact .none

/-- Pieces of the same kind have the same edges. -/
theorem edgeRows_of_kin (kin : List.Forall₂ Kin pieces.toList pieces'.toList) :
    edgeRows pieces' = edgeRows pieces := by
  refine edgeRows_congr fun i => ?_
  have here := rel_getElem?_of_kin kin i
  generalize pieces[i]? = x, pieces'[i]? = y at here ⊢
  cases here with
  | none => rfl
  | some rel =>
    rcases rel with rfl | ⟨x, y, rfl, rfl, tag, tag'⟩
    · rfl
    · simp [Piece.edges, tag.scan_eq, tag'.scan_eq]

theorem landmarkAt_of_kin (kin : List.Forall₂ Kin pieces.toList pieces'.toList) :
    landmarkAt pieces' = landmarkAt pieces := by
  funext i
  have here := rel_getElem?_of_kin kin i
  rw [landmarkAt, landmarkAt]
  generalize pieces[i]? = x, pieces'[i]? = y at here ⊢
  cases here with
  | none => rfl
  | some rel =>
    rcases rel with rfl | ⟨x, y, rfl, rfl, tag, tag'⟩
    · rfl
    · simp [landmark, Landmark.ofMarkup, tag.edge, tag'.edge]

end Rows

/-- A row of pieces and the same one with more pieces. A place of the one row has a stretch of places in
the other one, from its counterpart to that of the next place; behind the end of a paragraph or a row
nothing is added. -/
structure Split (places : List Nat) (whole cut : Array Piece) : Prop where
  numbers : Renumbers places whole.size cut.size
  first : Sends (places ++ [cut.size]) 0 0
  blocks : ∀ (i a b : Nat) piece, whole[i]? = some piece → Sends (places ++ [cut.size]) i a →
    Sends (places ++ [cut.size]) (i + 1) b →
    SplitAs (Edge.openedAt (edgeRows whole) i) piece (stretch cut a b)
  ends : ∀ i a b : Nat, landmarkAt whole i ∈ [some .rowEnd, some .paragraphEnd] →
    Sends (places ++ [cut.size]) i a → Sends (places ++ [cut.size]) (i + 1) b → b = a + 1

/-- The last piece is neither the end of a paragraph nor that of a row. -/
def Extensible (pieces : Array Piece) : Prop :=
  ∃ mark, landmarkAt pieces (pieces.size - 1) = some mark ∧ mark ∉ [.rowEnd, .paragraphEnd]

/-- Behind anything but the end of a row or a paragraph more XML may stand. -/
theorem extensible_push {pieces : Array Piece} {piece : Piece}
    (other : piece.landmark ∉ [.rowEnd, .paragraphEnd]) : Extensible (pieces.push piece) := by
  refine ⟨piece.landmark, ?_, other⟩
  rw [Array.size_push, Nat.add_sub_cancel]
  exact landmarkAt_push_size pieces piece

theorem landmark_of_plain {text : Text} (plain : '<' ∉ text) :
    (Piece.verbatim text).landmark = .other := by
  have free : Edge.ofMarkup? text = none := by
    unfold Edge.ofMarkup?
    split <;> simp at plain ⊢
  rw [landmark, Landmark.ofMarkup, free]
  rfl

namespace Split

variable {places : List Nat} {whole cut : Array Piece}

theorem border (split : Split places whole cut) {i a : Nat}
    (sends : Sends (places ++ [cut.size]) i a) : i ≤ whole.size ∧ a ≤ cut.size := by
  obtain ⟨left, right⟩ := split.numbers.push.lt_size sends
  exact ⟨Nat.lt_succ_iff.mp left, Nat.lt_succ_iff.mp right⟩

theorem eq_size (split : Split places whole cut) {a : Nat}
    (sends : Sends (places ++ [cut.size]) whole.size a) : a = cut.size :=
  sends.unique split.numbers.sends_last

/-- The border behind the last place is the only one that moves when something is added. -/
theorem sends_of_lt (split : Split places whole cut) {i a last : Nat}
    (sends : Sends (places ++ [last]) i a) (inside : i < whole.size) : Sends places i a := by
  rcases sends_append_iff.mp sends with here | ⟨rfl, _⟩
  · exact here
  · rw [split.numbers.length] at inside
    omega

theorem push (split : Split places whole cut) {x y : Text} {after : List Text}
    (alike : XmlAlike (Edge.openedAt (edgeRows whole) whole.size) [x] [y] after) :
    Split (places ++ [cut.size]) (whole.push (.verbatim x)) (cut.push (.verbatim y)) := by
  have size : (cut.push (.verbatim y)).size = cut.size + 1 := Array.size_push _
  have old {i a : Nat} (sends : Sends (places ++ [cut.size] ++ [cut.size + 1]) i a)
      (inside : i ≤ whole.size) : Sends (places ++ [cut.size]) i a := by
    rcases sends_append_iff.mp sends with here | ⟨rfl, _⟩
    · exact here
    · rw [List.length_append, split.numbers.length, List.length_singleton] at inside
      omega
  have new {a : Nat} (sends : Sends (places ++ [cut.size] ++ [cut.size + 1]) (whole.size + 1) a) :
      a = cut.size + 1 := sends.unique split.numbers.push.sends_last
  refine ⟨?_, ?_, fun i a b piece found lower upper => ?_, fun i a b mark lower upper => ?_⟩
  · rw [Array.size_push, size]
    exact split.numbers.push
  · exact split.first.append
  · rw [size] at lower upper
    rw [Array.getElem?_push] at found
    split at found
    · next last =>
      subst last
      cases found
      have start := split.eq_size (old lower (Nat.le_refl _))
      have stop := new upper
      subst start stop
      have one : stretch (cut.push (.verbatim y)) cut.size (cut.size + 1) = [.verbatim y] := by
        rw [stretch, Array.toList_push, List.take_of_length_le (by simp)]
        exact List.drop_left' (by simp)
      rw [one, edgeRows_push, Edge.openedAt_append (by simp)]
      exact .xml alike
    · obtain ⟨inside, _⟩ := Array.getElem?_eq_some_iff.mp found
      have start := old lower (Nat.le_of_lt inside)
      have stop := old upper inside
      have kept : stretch (cut.push (.verbatim y)) a b = stretch cut a b :=
        stretch_of_grown Array.toList_push (split.border stop).2
      rw [kept, edgeRows_push, Edge.openedAt_append (by simp; omega)]
      exact split.blocks i a b piece found start stop
  · rw [size] at lower upper
    by_cases inside : i < whole.size
    · rw [landmarkAt_push inside] at mark
      exact split.ends i a b mark (old lower (Nat.le_of_lt inside)) (old upper inside)
    · have beyond := (split.numbers.push.push.lt_size upper).1
      have last : i = whole.size := by omega
      subst last
      rw [split.eq_size (old lower (Nat.le_refl _)), new upper]

/-- XML that comes to nothing may be added behind anything but the end of a paragraph or a row. -/
theorem skip {Q : Text → Prop} {opened : List Text} (split : Split places whole cut)
    (laid : Laid Q whole opened) {later : Array Piece} {row : List Text}
    (grown : later.toList = cut.toList ++ row.map .verbatim) (idle : XmlAlike opened [] row opened)
    (extensible : Extensible whole) : Split places whole later := by
  obtain ⟨mark, there, plain⟩ := extensible
  have filled := lt_size_of_landmarkAt there
  have upTo : cut.size ≤ later.size := by
    rw [← Array.length_toList, ← Array.length_toList, grown, List.length_append]
    omega
  have old {i a : Nat} (sends : Sends (places ++ [later.size]) i a) (inside : i < whole.size) :
      Sends (places ++ [cut.size]) i a := (split.sends_of_lt sends inside).append
  -- What is added belongs to the stretch of the last piece, so no other is looked at again.
  refine ⟨split.numbers.grow upTo, ?_, fun i a b piece found lower upper => ?_,
    fun i a b ends lower upper => ?_⟩
  · exact (split.sends_of_lt split.first (by omega)).append
  · obtain ⟨inside, _⟩ := Array.getElem?_eq_some_iff.mp found
    have start := old lower inside
    by_cases last : i + 1 < whole.size
    · have stop := old upper last
      rw [stretch_of_grown grown (split.border stop).2]
      exact split.blocks i a b piece found start stop
    · have ending : i + 1 = whole.size := by omega
      have stop : b = later.size := by
        rw [ending] at upper
        exact upper.unique split.numbers.sends_last
      have border : Sends (places ++ [cut.size]) (i + 1) cut.size := by
        rw [ending]
        exact split.numbers.sends_last
      rw [stop, stretch_size_of_grown grown (split.border start).2]
      have walked : Edge.walk (Edge.openedAt (edgeRows whole) i) piece.edges = some opened := by
        have row : (edgeRows whole)[i]? = some piece.edges := by simp [edgeRows, found]
        have next := Edge.walk_openedAt laid.walked row
        have end_ := Edge.openedAt_length laid.walked
        rw [length_edgeRows] at end_
        rwa [ending, end_] at next
      have innermost : TextInnermost (Edge.openedAt (edgeRows whole) i) :=
        Edge.walk_innermost (Edge.walk_take laid.walked i) (by simp [TextInnermost])
      exact (split.blocks i a cut.size piece found start border).append innermost walked idle
  · have inside : i < whole.size := by
      rcases List.mem_pair.mp ends with same | same <;> exact lt_size_of_landmarkAt same
    by_cases last : i + 1 < whole.size
    · exact split.ends i a b ends (old lower inside) (old upper last)
    · have ending : whole.size - 1 = i := by omega
      rw [ending] at there
      rw [there] at ends
      simp only [List.mem_cons, Option.some.injEq, List.not_mem_nil, or_false] at ends plain
      exact absurd ends plain

/-- A tag comes to its place in both rows. -/
theorem set (split : Split places whole cut) {i j : Nat} (sends : Sends places i j)
    (slot : whole[i]? = some (.verbatim [])) (slot' : cut[j]? = some (.verbatim []))
    {s t : PlacedTag} (same : s.toTag = t.toTag) :
    Split places (whole.setIfInBounds i (.tag s)) (cut.setIfInBounds j (.tag t)) := by
  obtain ⟨inside, _⟩ := Array.getElem?_eq_some_iff.mp slot
  obtain ⟨inside', _⟩ := Array.getElem?_eq_some_iff.mp slot'
  refine ⟨?_, ?_, fun k a b piece found lower upper => ?_, fun k a b mark lower upper => ?_⟩
  · simpa using split.numbers
  · simpa using split.first
  · rw [Array.size_setIfInBounds] at lower upper
    have before := split.numbers.push.lt_of_lt lower upper (Nat.lt_succ_self k)
    rw [edgeRows_set slot]
    rw [Array.getElem?_setIfInBounds] at found
    split at found
    · next here =>
      subst here
      cases found
      have start : a = j := lower.unique sends.append
      subst start
      have old := split.blocks i a b _ slot lower upper
      rw [stretch_eq_cons slot' before] at old
      have new : (cut.setIfInBounds a (.tag t))[a]? = some (.tag t) := by
        rw [Array.getElem?_setIfInBounds]
        simp [inside']
      rw [stretch_eq_cons new before, stretch_set_of_outside (.inl (Nat.lt_succ_self a))]
      exact old.fill same
    · next other =>
      have outside : j < a ∨ b ≤ j := by
        rcases Nat.lt_or_gt_of_ne other with less | more
        · exact .inl (split.numbers.push.lt_of_lt sends.append lower less)
        · rcases Nat.lt_or_eq_of_le more with beyond | rfl
          · exact .inr (Nat.le_of_lt (split.numbers.push.lt_of_lt upper sends.append beyond))
          · exact .inr (Nat.le_of_eq (upper.unique sends.append))
      rw [stretch_set_of_outside outside]
      exact split.blocks k a b piece found lower upper
  · rw [Array.size_setIfInBounds] at lower upper
    rw [landmarkAt_set slot] at mark
    exact split.ends k a b mark lower upper

/-- The start tags of text elements may be changed into others. -/
theorem kin (split : Split places whole cut) {whole' cut' : Array Piece}
    (kin : List.Forall₂ Kin whole.toList whole'.toList)
    (kin' : List.Forall₂ Kin cut.toList cut'.toList) : Split places whole' cut' := by
  have size := kin.length_eq
  have size' := kin'.length_eq
  simp only [Array.length_toList] at size size'
  refine ⟨size ▸ size' ▸ split.numbers, size' ▸ split.first, fun i a b piece found lower upper => ?_,
    fun i a b mark lower upper => ?_⟩
  · rw [← size'] at lower upper
    have here := rel_getElem?_of_kin kin i
    rw [found] at here
    generalize old : whole[i]? = x at here
    cases here with
    | some rel =>
      rw [edgeRows_of_kin kin]
      refine (split.blocks i a b _ old lower upper).kin rel ?_
      exact List.forall₂_drop _ (List.forall₂_take _ kin')
  · rw [← size'] at lower upper
    rw [landmarkAt_of_kin kin] at mark
    exact split.ends i a b mark lower upper

/-- A text may grow at its end. -/
theorem extend {front back : Text} (split : Split places (whole.push (.verbatim front)) cut)
    (plain : '<' ∉ front) (complete : Entity.Complete front) (plainBack : '<' ∉ back) :
    Split places (whole.push (.verbatim (front ++ back))) (cut.push (.verbatim back)) := by
  have none {text : Text} (plain : '<' ∉ text) : Edge.scan text = [] := Edge.scan_of_plain plain
  have both : '<' ∉ front ++ back := by simp [plain, plainBack]
  have rows : edgeRows (whole.push (.verbatim (front ++ back))) =
      edgeRows (whole.push (.verbatim front)) := by
    simp [edges, none plain, none both]
  have size : (whole.push (.verbatim (front ++ back))).size =
      (whole.push (.verbatim front)).size := by simp
  have grown : (cut.push (.verbatim back)).toList = cut.toList ++ [back].map .verbatim := by simp
  have old {i a : Nat} (sends : Sends (places ++ [(cut.push (.verbatim back)).size]) i a)
      (inside : i < (whole.push (.verbatim front)).size) : Sends (places ++ [cut.size]) i a :=
    (split.sends_of_lt sends inside).append
  have last {i b : Nat} (upper : Sends (places ++ [(cut.push (.verbatim back)).size]) (i + 1) b)
      (ending : i + 1 = (whole.push (.verbatim front)).size) :
      b = (cut.push (.verbatim back)).size ∧ Sends (places ++ [cut.size]) (i + 1) cut.size := by
    rw [ending] at upper ⊢
    exact ⟨upper.unique split.numbers.sends_last, split.numbers.sends_last⟩
  -- Only the stretch of the last piece has grown, and a text ends no paragraph and no row.
  refine ⟨?_, ?_, fun i a b piece found lower upper => ?_, fun i a b mark lower upper => ?_⟩
  · rw [size]
    exact split.numbers.grow (by simp)
  · have filled : 0 < (whole.push (.verbatim front)).size := by simp
    exact (split.sends_of_lt split.first filled).append
  · rw [rows]
    rw [Array.getElem?_push] at found
    split at found
    · next here =>
      subst here
      cases found
      have start := old lower (by simp)
      obtain ⟨rfl, border⟩ := last upper (by simp)
      rw [stretch_size_of_grown grown (split.border start).2]
      have before := split.blocks whole.size a cut.size _ Array.getElem?_push_size start border
      exact before.extend plain complete plainBack
    · obtain ⟨inside, _⟩ := Array.getElem?_eq_some_iff.mp found
      have start := old lower (by rw [Array.size_push]; omega)
      have stop := old upper (by rw [Array.size_push]; omega)
      rw [stretch_of_grown grown (split.border stop).2]
      refine split.blocks i a b piece ?_ start stop
      rw [Array.getElem?_push, if_neg (by omega), found]
  · by_cases inside : i < whole.size
    · rw [landmarkAt_push inside] at mark
      have start := old lower (by rw [Array.size_push]; omega)
      have stop := old upper (by rw [Array.size_push]; omega)
      refine split.ends i a b ?_ start stop
      rwa [landmarkAt_push inside]
    · have bound : i < (whole.push (.verbatim (front ++ back))).size := by
        rcases List.mem_pair.mp mark with same | same <;> exact lt_size_of_landmarkAt same
      rw [Array.size_push] at bound
      have here : i = whole.size := by omega
      subst here
      rw [landmarkAt_push_size, landmark_of_plain both] at mark
      simp at mark

end Split

end Piece

/-- A span among the pieces of one row, and its counterpart in another one. -/
structure Span.Split (places : List Nat) (a b : Span) : Prop where
  start : Sends places a.start b.start
  stop : Option.Rel (Sends places) a.stop b.stop
  tags : a.tags = b.tags
  hasText : a.hasText = b.hasText

/-- The spans of one row, by number, and their counterparts in another one. -/
structure Span.Splits (places ids : List Nat) (spans spans' : Array Span) : Prop where
  numbers : Renumbers ids spans.size spans'.size
  spans : ∀ (k k' : Nat) span span', Sends ids k k' → spans[k]? = some span → spans'[k']? = some span' →
    Split places span span'

namespace Span

variable {places ids : List Nat} {a b : Span} {spans spans' : Array Span}

theorem Split.append (split : Split places a b) {more : List Nat} : Split (places ++ more) a b :=
  ⟨split.start.append, rel_append split.stop, split.tags, split.hasText⟩

namespace Splits

theorem append (splits : Splits places ids spans spans') {more : List Nat} :
    Splits (places ++ more) ids spans spans' :=
  ⟨splits.numbers, fun k k' span span' sends found found' =>
    (splits.spans k k' span span' sends found found').append⟩

/-- A span begins at the same place in both rows. -/
theorem push (splits : Splits places ids spans spans') {i j : Nat} (here : Sends places i j) :
    Splits places (ids ++ [spans'.size]) (spans.push (.beginAt i)) (spans'.push (.beginAt j)) := by
  refine ⟨?_, fun k k' span span' sends found found' => ?_⟩
  · rw [Array.size_push, Array.size_push]
    exact splits.numbers.push
  · rcases sends_append_iff.mp sends with old | ⟨rfl, rfl⟩
    · obtain ⟨inside, inside'⟩ := splits.numbers.lt_size old
      rw [Array.getElem?_push, if_neg (by omega)] at found found'
      exact splits.spans k k' span span' old found found'
    · rw [splits.numbers.length, Array.getElem?_push_size] at found
      rw [Array.getElem?_push_size] at found'
      cases found
      cases found'
      exact ⟨here, .none, rfl, rfl⟩

/-- A span and its counterpart change together. -/
theorem modify (splits : Splits places ids spans spans') {k k' : Nat} (sends : Sends ids k k')
    {change change' : Span → Span}
    (together : ∀ a b, Split places a b → Split places (change a) (change' b)) :
    Splits places ids (spans.modify k change) (spans'.modify k' change') := by
  refine ⟨by simpa using splits.numbers, fun i i' span span' here found found' => ?_⟩
  have same := splits.numbers.eq_iff sends here
  rw [Array.getElem?_modify] at found found'
  by_cases changed : k = i
  · have changed' : k' = i' := same.mpr changed
    rw [if_pos changed] at found
    rw [if_pos changed'] at found'
    obtain ⟨old, there, rfl⟩ := Option.map_eq_some_iff.mp found
    obtain ⟨old', there', rfl⟩ := Option.map_eq_some_iff.mp found'
    exact together old old' (splits.spans i i' old old' here there there')
  · have unchanged' : k' ≠ i' := fun equal => changed (same.mp equal)
    rw [if_neg changed] at found
    rw [if_neg unchanged'] at found'
    exact splits.spans i i' span span' here found found'

/-- The other row may have more spans. -/
theorem skip (splits : Splits places ids spans spans') {later : Array Span}
    (kept : ∀ k < spans'.size, later[k]? = spans'[k]?) (upTo : spans'.size ≤ later.size) :
    Splits places ids spans later := by
  refine ⟨splits.numbers.grow upTo, fun k k' span span' sends found found' => ?_⟩
  rw [kept k' (splits.numbers.lt_size sends).2] at found'
  exact splits.spans k k' span span' sends found found'

end Splits

end Span

end WordMerge
