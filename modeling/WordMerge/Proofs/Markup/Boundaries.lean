import Mathlib.Data.List.Chain
import WordMerge.Proofs.Markup.Scan
import WordMerge.Proofs.Text.Utf8

namespace WordMerge

namespace Bytes

open Utf8

/-- How many bytes come before the end of the first mark. Where there is none, all are counted. -/
def throughMark (mark : Bytes) : Bytes → Nat
  | [] => 0
  | b :: rest => if mark.isPrefixOf (b :: rest) then mark.length else throughMark mark rest + 1

/-- How many bytes come before the end of a tag inside the open quote, if there is one. -/
def throughTag : Option UInt8 → Bytes → Nat
  | _, [] => 0
  | some q, b :: rest => throughTag (if b = q then none else some q) rest + 1
  | none, b :: rest =>
    if b = 0x3E then 1
    else throughTag (if b = 0x22 ∨ b = 0x27 then some b else none) rest + 1

/-- How many bytes come before the end of the markup at the front. -/
def throughMarkup (s : Bytes) : Nat :=
  if (encode ['<', '!', '-', '-']).isPrefixOf s then throughMark (encode ['-', '-', '>']) s
  else if (encode ['<', '!', '[', 'C', 'D', 'A', 'T', 'A', '[']).isPrefixOf s then
    throughMark (encode [']', ']', '>']) s
  else if (encode ['<', '?']).isPrefixOf s then throughMark (encode ['?', '>']) s
  else throughTag none s

/-- The numbers of bytes of the items, found without a look at the characters. -/
def itemLengths : Bytes → List Nat
  | [] => []
  | b :: rest =>
    let length :=
      if b = 0x3C then throughMarkup (b :: rest) else (rest.takeWhile (· ≠ 0x3C)).length + 1
    length :: itemLengths (rest.drop (length - 1))
  termination_by s => s.length
  decreasing_by simp only [List.length_drop, List.length_cons]; omega

/-- A mark of ASCII characters is found at the front of a text exactly where its bytes are found. -/
theorem isPrefixOf_encode {mark : Text} (ascii : ∀ c ∈ mark, c.toNat ≤ 127) (s : Text) :
    (encode mark).isPrefixOf (encode s) = mark.isPrefixOf s := by
  induction mark generalizing s with
  | nil => simp [encode]
  | cons c mark ih =>
    rw [List.forall_mem_cons] at ascii
    rw [encode_cons_of_ascii ascii.1]
    cases s with
    | nil => rfl
    | cons d s =>
      rw [List.isPrefixOf_cons_cons]
      obtain ⟨low, follows⟩ | ⟨high, b, front, bytes, _, follows⟩ := encode_cons_cases d s
      · rw [follows, List.isPrefixOf_cons_cons, ih ascii.2]
        by_cases same : c = d
        · simp [same]
        · have differ : byteOf c ≠ byteOf d := fun equal =>
            same ((byteOf_inj ascii.1 low).mp equal)
          rw [beq_eq_false_iff_ne.mpr differ, beq_eq_false_iff_ne.mpr same]
      · have same : c ≠ d := by
          rintro rfl
          omega
        have differ : byteOf c ≠ b := by
          rintro rfl
          have large := bytes _ List.mem_cons_self
          rw [toNat_byteOf ascii.1] at large
          omega
        rw [follows, List.cons_append, List.isPrefixOf_cons_cons, beq_eq_false_iff_ne.mpr differ,
          beq_eq_false_iff_ne.mpr same]
        rfl

/-- Bytes of characters beyond ASCII are passed on the way to a mark: none of them looks like a sign
of markup, so the end may be looked for byte by byte. -/
theorem throughMark_high {first : UInt8} (low : first.toNat ≤ 127) (mark : Bytes) {front : Bytes}
    (high : ∀ b ∈ front, 128 ≤ b.toNat) (rest : Bytes) :
    throughMark (first :: mark) (front ++ rest) = front.length + throughMark (first :: mark) rest := by
  induction front with
  | nil => simp
  | cons b front ih =>
    rw [List.forall_mem_cons] at high
    have differ : first ≠ b := by
      rintro rfl
      omega
    rw [List.cons_append, throughMark, List.isPrefixOf_cons_cons, beq_eq_false_iff_ne.mpr differ,
      Bool.false_and, if_neg Bool.false_ne_true, ih high.2, List.length_cons]
    omega

/-- A character that no mark begins with is passed with all its bytes. -/
theorem throughMark_cons {mark : Text} (filled : mark ≠ []) (ascii : ∀ c ∈ mark, c.toNat ≤ 127)
    {c : Char} {s : Text} (missing : ¬ mark <+: c :: s) :
    throughMark (encode mark) (encode (c :: s)) =
      (encode [c]).length + throughMark (encode mark) (encode s) := by
  have apart : (encode mark).isPrefixOf (encode (c :: s)) = false := by
    rw [isPrefixOf_encode ascii, ← Bool.not_eq_true, List.isPrefixOf_iff_prefix]
    exact missing
  obtain ⟨low, follows⟩ | ⟨_, b, front, high, alone, follows⟩ := encode_cons_cases c s
  · have alone : encode [c] = [byteOf c] := encode_cons_of_ascii low []
    rw [follows] at apart ⊢
    rw [throughMark, apart, if_neg Bool.false_ne_true, alone, List.length_singleton, Nat.add_comm]
  · obtain ⟨m, more, rfl⟩ := List.exists_cons_of_ne_nil filled
    have ascii := (List.forall_mem_cons.mp ascii).1
    have low : (byteOf m).toNat ≤ 127 := (toNat_byteOf ascii).trans_le ascii
    rw [follows, encode_cons_of_ascii ascii] at apart ⊢
    rw [List.cons_append] at apart ⊢
    rw [throughMark, apart, if_neg Bool.false_ne_true,
      throughMark_high low _ (List.forall_mem_cons.mp high).2, alone, List.length_cons]
    omega

/-- A mark of ASCII characters is found in the bytes where it is found in the text. -/
theorem throughMark_encode {mark : Text} (filled : mark ≠ []) (ascii : ∀ c ∈ mark, c.toNat ≤ 127)
    (s : Text) :
    throughMark (encode mark) (encode s) = (encode (Text.cutThrough mark s).1).length := by
  induction s with
  | nil => rfl
  | cons c s ih =>
    rw [Text.cutThrough, Text.cutThrough.go]
    cases found : mark.isPrefixOf? (c :: s) with
    | some after =>
      have whole := Text.append_eq_of_isPrefixOf? found
      have here : (encode mark).isPrefixOf (encode (c :: s)) = true := by
        rw [isPrefixOf_encode ascii, List.isPrefixOf_iff_prefix]
        exact ⟨after, whole⟩
      obtain ⟨first, tail, spelled, _⟩ := step_encodeChar c
      rw [encode_cons spelled] at here ⊢
      rw [throughMark, if_pos here]
      rfl
    | none =>
      have missing : ¬ mark <+: c :: s := by
        rintro ⟨after, whole⟩
        rw [← whole, Text.isPrefixOf?_append] at found
        cases found
      rw [throughMark_cons filled ascii missing, ih, Text.cutThrough_go_eq, ← List.length_append,
        ← encode_append]
      rfl

/-- Bytes of characters beyond ASCII are passed on the way to the end of a tag. -/
theorem throughTag_high {quote : Option UInt8} (low : ∀ q ∈ quote, q.toNat ≤ 127) {front : Bytes}
    (high : ∀ b ∈ front, 128 ≤ b.toNat) (rest : Bytes) :
    throughTag quote (front ++ rest) = front.length + throughTag quote rest := by
  induction front with
  | nil => simp
  | cons b front ih =>
    rw [List.forall_mem_cons] at high
    have sign {q : UInt8} (ascii : q.toNat ≤ 127) : b ≠ q := by
      rintro rfl
      omega
    have passed : throughTag quote (b :: front ++ rest) = throughTag quote (front ++ rest) + 1 := by
      cases quote with
      | some q => rw [List.cons_append, throughTag, if_neg (sign (low q rfl))]
      | none =>
        rw [List.cons_append, throughTag, if_neg (sign (by decide)),
          if_neg (not_or.mpr ⟨sign (by decide), sign (by decide)⟩)]
    rw [passed, ih high.2, List.length_cons]
    omega

/-- A character inside a tag is passed with all its bytes, and opens and closes quotes as its byte
does. -/
theorem throughTag_cons {quote next : Option Char} (ascii : ∀ q ∈ quote, q.toNat ≤ 127) {c : Char}
    (step : Item.quoteStep quote c = some next) (s : Text) :
    throughTag (quote.map byteOf) (encode (c :: s)) =
      (encode [c]).length + throughTag (next.map byteOf) (encode s) := by
  -- The bytes of a character beyond ASCII are all above 127: none is a quote or ends the tag.
  obtain ⟨low, follows⟩ | ⟨beyond, b, front, high, alone, follows⟩ := encode_cons_cases c s
  · have alone : encode [c] = [byteOf c] := encode_cons_of_ascii low []
    have sign {q : Char} (known : q.toNat ≤ 127) : byteOf c = byteOf q ↔ c = q := byteOf_inj low known
    rw [follows, alone, List.length_singleton, Nat.add_comm]
    cases quote with
    | some q =>
      cases step
      simp only [Option.map_some, throughTag, sign (ascii q rfl)]
      split <;> rfl
    | none =>
      simp only [Item.quoteStep] at step
      split at step
      · cases step
      · next other =>
        cases step
        have closing : byteOf c ≠ 0x3E := mt (sign (q := '>') (by decide)).mp other
        have double : byteOf c = 0x22 ↔ c = '"' := sign (q := '"') (by decide)
        have single : byteOf c = 0x27 ↔ c = '\'' := sign (q := '\'') (by decide)
        simp only [Option.map_none, throughTag, if_neg closing, double, single]
        split <;> rfl
  · have sign {q : Char} (known : q.toNat ≤ 127) : c ≠ q := by
      rintro rfl
      omega
    have same : next = quote := by
      cases quote with
      | some q =>
        rw [Item.quoteStep, if_neg (sign (ascii q rfl))] at step
        exact (Option.some.inj step).symm
      | none =>
        rw [Item.quoteStep, if_neg (sign (by decide)),
          if_neg (not_or.mpr ⟨sign (by decide), sign (by decide)⟩)] at step
        exact (Option.some.inj step).symm
    have low : ∀ q ∈ quote.map byteOf, q.toNat ≤ 127 := by
      intro q member
      obtain ⟨q, found, rfl⟩ := Option.map_eq_some_iff.mp member
      exact (toNat_byteOf (ascii q found)).trans_le (ascii q found)
    rw [follows, same, throughTag_high low high, alone]

/-- A tag ends in the bytes where it ends in the text. -/
theorem throughTag_encode (quote : Option Char) (ascii : ∀ q ∈ quote, q.toNat ≤ 127)
    (passed s : Text) :
    (encode passed.reverse).length + throughTag (quote.map byteOf) (encode s) =
      (encode (Item.cutTag.go quote passed s).1).length := by
  have onward (c : Char) (passed : Text) : (encode (c :: passed).reverse).length =
      (encode passed.reverse).length + (encode [c]).length := by
    rw [List.reverse_cons, encode_append, List.length_append]
  fun_induction Item.cutTag.go quote passed s with
  | case1 quote passed => simp [encode, throughTag]
  | case2 q passed c rest ih =>
    rw [throughTag_cons ascii rfl, ← Nat.add_assoc, ← onward]
    exact ih fun q' member => ascii q' (by grind)
  | case3 passed rest =>
    rw [List.reverse_cons, encode_append, List.length_append]
    rfl
  | case4 passed c rest other ih =>
    have step : Item.quoteStep none c = some (if c = '"' ∨ c = '\'' then some c else none) := by
      rw [Item.quoteStep, if_neg other]
    rw [throughTag_cons ascii step, ← Nat.add_assoc, ← onward]
    refine ih fun q member => ?_
    split at member
    · next quotes =>
      cases member
      rcases quotes with rfl | rfl <;> decide
    · cases member

/-- Markup ends at the same place in the bytes and in the characters. -/
theorem throughMarkup_encode (s : Text) :
    throughMarkup (encode s) = (encode (Item.cutMarkup s).1).length := by
  have found {mark : Text} (ascii : ∀ c ∈ mark, c.toNat ≤ 127) :
      (encode mark).isPrefixOf (encode s) = mark.isPrefixOf s := isPrefixOf_encode ascii s
  unfold throughMarkup Item.cutMarkup Item.terminator?
  rw [found (by simp), found (by simp), found (by simp)]
  split
  · exact throughMark_encode (by simp) (by simp) s
  · split
    · exact throughMark_encode (by simp) (by simp) s
    · split
      · exact throughMark_encode (by simp) (by simp) s
      · have ends := throughTag_encode none (by simp) [] s
        rw [List.reverse_nil, encode_nil, List.length_nil, Nat.zero_add] at ends
        exact ends

/-- Markup in front is the first item of the bytes. -/
theorem itemLengths_markup {raw after : Text} (opened : raw.head? = some '<')
    (cut : Item.cutMarkup (raw ++ after) = (raw, after)) :
    itemLengths (encode (raw ++ after)) = (encode raw).length :: itemLengths (encode after) := by
  have ends := throughMarkup_encode (raw ++ after)
  rw [cut] at ends
  obtain ⟨tail, rfl⟩ : ∃ tail, raw = '<' :: tail := by
    cases raw with
    | nil => cases opened
    | cons c tail => exact ⟨tail, by cases opened; rfl⟩
  have spelled : encode ('<' :: tail) = 0x3C :: encode tail := encode_cons_of_ascii (by decide) tail
  rw [encode_append, spelled, List.cons_append] at ends ⊢
  rw [itemLengths, if_pos rfl, ends, List.length_cons, Nat.add_sub_cancel, List.drop_left]

/-- Character data in front is the first item of the bytes. -/
theorem itemLengths_text {raw after : Text} (filled : raw ≠ []) (plain : '<' ∉ raw)
    (border : ∀ c ∈ after.head?, c = '<') :
    itemLengths (encode (raw ++ after)) = (encode raw).length :: itemLengths (encode after) := by
  have absent : 0x3C ∉ encode raw := mt (mem_of_byteOf_mem_encode (c := '<') (by decide)) plain
  obtain ⟨b, tail, spelled⟩ : ∃ b tail, encode raw = b :: tail := by
    obtain ⟨c, more, rfl⟩ := List.exists_cons_of_ne_nil filled
    obtain ⟨first, tail, spelled, _⟩ := step_encodeChar c
    exact ⟨_, _, encode_cons spelled more⟩
  rw [spelled, List.mem_cons, not_or] at absent
  have taken : (tail ++ encode after).takeWhile (· ≠ 0x3C) = tail := by
    rw [List.takeWhile_append_of_pos fun d member => by
      simpa using fun same : d = 0x3C => absent.2 (same ▸ member)]
    cases after with
    | nil => simp [encode]
    | cons c after =>
      rw [border c rfl, encode_cons_of_ascii (by decide)]
      simp [byteOf]
  rw [encode_append, spelled, List.cons_append, itemLengths, if_neg (Ne.symm absent.1), taken,
    Nat.add_sub_cancel, List.drop_left, List.length_cons]

/-- The items that are found byte by byte are those that are found character by character. -/
theorem itemLengths_encode (source : Text) :
    itemLengths (encode source) = (Item.scan source).map fun item => (encode item.raw).length := by
  induction source using Item.part_induction with
  | nil => simp [encode, itemLengths]
  | unfinished s opened unfinished =>
    have cut : Item.cutMarkup (s ++ []) = (s, []) := by
      rw [List.append_nil, Item.cutMarkup_of_not_finished unfinished]
    have lengths := itemLengths_markup opened cut
    rw [List.append_nil] at lengths
    rw [Item.scan_of_not_finished opened unfinished, lengths]
    simp [encode, itemLengths, Item.raw]
  | markup raw after cut ih =>
    rw [Item.scan_cut cut, itemLengths_markup cut.opened (cut.cut after), ih]
    rfl
  | text raw after filled plain border ih =>
    rw [Item.scan_text filled plain border, itemLengths_text filled plain border, ih]
    rfl

end Bytes

namespace Item

/-- Whether the items of a part are what they have to be, whatever the part. -/
structure Stable (source : Text) : Prop where
  /-- Together they spell the part. -/
  spelled : spell (scan source) = source
  /-- None is empty. -/
  filled : ∀ item ∈ scan source, item.raw ≠ []
  /-- A search over the bytes ends each of them at the same place, behind a whole character. -/
  bytewise : Bytes.itemLengths (Utf8.encode source) =
    (scan source).map fun item => (Utf8.encode item.raw).length
  /-- Markup begins with a less-than sign. -/
  opened : ∀ raw, .markup raw ∈ scan source → raw.head? = some '<'
  /-- Character data has none. -/
  plain : ∀ raw, .text raw ∈ scan source → '<' ∉ raw
  /-- No two stretches of character data stand side by side. -/
  apart : (scan source).IsChain fun item next => item.markup?.isSome ∨ next.markup?.isSome
  /-- The characters of one item alone are scanned to that item. -/
  alone : ∀ item ∈ scan source, scan item.raw = [item]
  /-- If the last markup has its end, what follows the part is scanned as if it stood alone; only
  character data on both sides of the border is joined. -/
  extended : (∀ raw ∈ (markups source).getLast?, finished raw = true) →
    ∀ after, scan (source ++ after) = join (scan source) (scan after)

theorem scan_raw_of_mem_scan {source : Text} {item : Item} (member : item ∈ scan source) :
    scan item.raw = [item] := by
  rcases mem_scan_cases member with ⟨raw, rfl, opened, cut⟩ | ⟨raw, rfl, filled, plain⟩
  · cases ends : finished raw with
    | true => exact (cut ends).scan_eq
    | false => exact scan_of_not_finished opened ends
  · have scanned := scan_text filled plain (by simp : ∀ c ∈ [].head?, c = '<')
    rwa [List.append_nil, scan_nil] at scanned

theorem isSome_markup?_of_border {s : Text} (border : ∀ c ∈ s.head?, c = '<') :
    ∀ item ∈ (scan s).head?, item.markup?.isSome := by
  intro item first
  cases item with
  | markup raw => rfl
  | text more =>
    obtain ⟨rest, scanned⟩ := List.head?_eq_some_iff.mp first
    have glued := congrArg List.length (glue_scan border (.text more))
    rw [scanned] at glued
    simp [glue] at glued

/-- No two items of character data stand side by side. -/
theorem isChain_scan (source : Text) :
    (scan source).IsChain fun item next => item.markup?.isSome ∨ next.markup?.isSome := by
  induction source using part_induction with
  | nil =>
    rw [scan_nil]
    exact .nil
  | unfinished s opened unfinished =>
    rw [scan_of_not_finished opened unfinished]
    exact .singleton _
  | markup raw after cut ih =>
    rw [scan_cut cut, List.isChain_cons]
    exact ⟨fun _ _ => .inl rfl, ih⟩
  | text raw after filled plain border ih =>
    rw [scan_text filled plain border, List.isChain_cons]
    exact ⟨fun next first => .inr (isSome_markup?_of_border border next first), ih⟩

/-- Only the last markup of a part may lack its end. -/
theorem whole_of_last {source : Text}
    (ends : ∀ raw ∈ (markups source).getLast?, finished raw = true) : Text.Whole source := by
  intro raw member
  rcases List.eq_nil_or_concat (scan source) with none | ⟨before, last, split⟩
  · rw [none] at member
    cases member
  · rw [List.concat_eq_append] at split
    rw [split, List.mem_append, List.mem_singleton] at member
    rcases member with earlier | rfl
    · have inside : .markup raw ∈ (scan source).dropLast := by
        rwa [split, List.dropLast_concat]
      exact (cut_of_mem_dropLast_scan inside).ends
    · refine ends raw ?_
      rw [markups, split, List.filterMap_append]
      exact List.getLast?_concat

/-- A part is cut into its items without loss. Each of them is found again by itself, and behind the
end of the last markup the scan begins anew. -/
theorem stable_scan (source : Text) : Stable source where
  spelled := spell_scan source
  filled item member := by
    rcases mem_scan_cases member with ⟨raw, rfl, opened, _⟩ | ⟨raw, rfl, filled, _⟩
    · rintro rfl
      cases opened
    · exact filled
  bytewise := Bytes.itemLengths_encode source
  opened _ := head?_of_mem_scan
  plain _ member := (plain_of_mem_scan member).2
  apart := isChain_scan source
  alone _ := scan_raw_of_mem_scan
  extended ends := scan_append (whole_of_last ends)

/-- A part whose last markup has its end, though a greater-than sign in quotes stands before it, and
which ends in character data with a character beyond ASCII. -/
def quotedEnd : Text :=
  "<a b='>'>é".toList

theorem stable_scan_quotedEnd :
    (∀ raw ∈ (markups quotedEnd).getLast?, finished raw = true) ∧
      scan (quotedEnd ++ "x<!-- > ".toList) =
        [.markup "<a b='>'>".toList, .text "éx".toList, .markup "<!-- > ".toList] := by
  have ends : ∀ raw ∈ (markups quotedEnd).getLast?, finished raw = true := by decide +kernel
  refine ⟨ends, ?_⟩
  rw [(stable_scan quotedEnd).extended ends]
  decide +kernel

end Item

end WordMerge
