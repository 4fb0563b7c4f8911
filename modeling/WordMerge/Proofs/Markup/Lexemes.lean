import Mathlib.Data.List.Chain
import WordMerge.Proofs.Markup.Scan

namespace WordMerge

namespace Text

/-- Where a mark has its only greater-than sign at its end, what ends with the mark and does not hold
it before is cut off right there. -/
theorem cutThrough_of_absent {stem front : Text} (plain : '>' ∉ stem)
    (absent : occurs (stem ++ ['>']) front = false) (after : Text) :
    cutThrough (stem ++ ['>']) (front ++ (stem ++ ['>']) ++ after) =
      (front ++ (stem ++ ['>']), after) := by
  have found : occurs (stem ++ ['>']) (front ++ (stem ++ ['>'])) = true := by
    simpa using occurs_append front (stem ++ ['>']) []
  obtain ⟨before, rest, split, cut⟩ := exists_cut_of_occurs (by simp) found
  suffices here : before ++ (stem ++ ['>']) = front ++ (stem ++ ['>']) by
    have cut := cut after
    rwa [here] at cut
  rcases List.eq_nil_or_concat rest with rfl | ⟨rest, c, rfl⟩
  · simpa using split.symm
  · -- an earlier mark would end within what stands before the last sign
    have early : before ++ stem ++ ['>'] <+: front ++ stem := by
      refine ⟨rest, ?_⟩
      simp only [List.concat_eq_append, ← List.append_assoc] at split
      simpa using (List.append_inj' split rfl).1.symm
    have outside : ¬ before ++ stem ++ ['>'] <+: front := by
      rintro ⟨tail, same⟩
      have there := occurs_append before (stem ++ ['>']) tail
      rw [← List.append_assoc before, same, absent] at there
      cases there
    rcases List.prefix_or_prefix_of_prefix early (List.prefix_append front stem) with short | long
    · exact absurd short outside
    · obtain ⟨tail, same⟩ := long
      rw [← same, List.prefix_append_right_inj] at early
      rcases List.eq_nil_or_concat tail with rfl | ⟨tail, d, rfl⟩
      · exact absurd (by simp [← same]) outside
      · rw [List.concat_eq_append, ← List.append_assoc] at same
        have last : d = '>' := by simpa using (List.append_inj' same rfl).2
        exact absurd (early.subset (by simp [last])) plain

/-- Where the first character of a mark does not stand, the mark does not begin. -/
theorem occurs_append_of_not_mem {mark front : Text} {first : Char} (begun : mark.head? = some first)
    (plain : first ∉ front) (s : Text) : occurs mark (front ++ s) = occurs mark s := by
  induction front with
  | nil => rfl
  | cons c front ih =>
    rw [List.mem_cons, not_or] at plain
    obtain ⟨mark, rfl⟩ : ∃ tail, mark = first :: tail := by
      cases mark with
      | nil => cases begun
      | cons d tail => exact ⟨tail, by cases begun; rfl⟩
    rw [List.cons_append, occurs, List.isPrefixOf_cons_cons, beq_eq_false_iff_ne.mpr plain.1, ih plain.2]
    rfl

theorem occurs_of_occurs_append {mark s : Text} (more : Text) (filled : mark ≠ [])
    (found : occurs (mark ++ more) s = true) : occurs mark s = true := by
  obtain ⟨before, rest, rfl, _⟩ := exists_cut_of_occurs (by simp [filled]) found
  simpa using occurs_append before mark (more ++ rest)

end Text

namespace Item

theorem exists_stem_of_mark {opener mark : Text} (listed : (opener, mark) ∈ marks) :
    ∃ stem, mark = stem ++ ['>'] ∧ '>' ∉ stem := by
  simp only [marks, List.mem_cons, Prod.mk.injEq, List.not_mem_nil, or_false] at listed
  rcases listed with ⟨_, rfl⟩ | ⟨_, rfl⟩ | ⟨_, rfl⟩
  · exact ⟨['-', '-'], rfl, by decide⟩
  · exact ⟨[']', ']'], rfl, by decide⟩
  · exact ⟨['?'], rfl, by decide⟩

/-- Markup that begins with an opener ends with its mark. The mark may overlap the opener. -/
theorem Cut.of_mark {opener mark : Text} (front : Text) (listed : (opener, mark) ∈ marks)
    (opened : opener <+: front ++ mark) (absent : Text.occurs mark front = false) :
    Cut (front ++ mark) := by
  have marked (after : Text) : terminator? (front ++ mark ++ after) = some mark := by
    obtain ⟨tail, whole⟩ := opened
    rw [← whole, List.append_assoc]
    exact terminator?_of_opener listed _
  constructor
  case opened =>
    obtain ⟨tail, whole⟩ := opened
    rw [← whole]
    simp only [marks, List.mem_cons, Prod.mk.injEq, List.not_mem_nil, or_false] at listed
    rcases listed with ⟨rfl, _⟩ | ⟨rfl, _⟩ | ⟨rfl, _⟩ <;> rfl
  case ends =>
    have here := marked []
    have found := Text.occurs_append front mark []
    rw [List.append_nil] at here found
    rw [finished, here]
    exact found
  case cut =>
    intro after
    rw [cutMarkup, marked after]
    obtain ⟨stem, rfl, plain⟩ := exists_stem_of_mark listed
    exact Text.cutThrough_of_absent plain absent after

/-- A tag ends with the first greater-than sign outside quotes. -/
theorem Cut.of_walk (before : Text) (opened : before.head? = some '<')
    (walk : before.foldlM quoteStep none = some none)
    (plain : terminator? (before ++ ['>']) = none) : Cut (before ++ ['>']) where
  opened := by rw [List.head?_append, opened, Option.some_or]
  ends := by simp [finished, plain, walk, quoteStep]
  cut := (cutMarkup_of_walk walk plain).2

end Item

/-- The white space of markup. -/
def isGap (c : Char) : Bool :=
  [' ', '\t', '\r', '\n'].contains c

/-- Whether a character can stand in a name: the XML grammar has no name with one of the signs of
markup or with white space in it. -/
def isNameChar (c : Char) : Bool :=
  !(isGap c || ['<', '>', '/', '=', '!', '?', '&', '"', '\''].contains c)

/-- The name of an element, of an attribute or of the target of an instruction. -/
structure XmlName where
  text : Text
  filled : text ≠ []
  proper : text.all isNameChar = true

/-- White space between the other pieces of a tag. -/
structure Gap where
  text : Text
  proper : text.all isGap = true

/-- An attribute with the white space before it. -/
structure Attribute where
  gap : Gap
  name : XmlName
  /-- The white space before the equals sign. -/
  left : Gap
  /-- The white space behind it. -/
  right : Gap
  /-- The quotation mark on both sides of the value. -/
  quote : Char
  /-- The value, in which a greater-than sign may stand. -/
  value : Text
  quotes : quote = '"' ∨ quote = '\''
  closed : quote ∉ value

/-- The written attribute. -/
def Attribute.write (attr : Attribute) : Text :=
  attr.gap.text ++ attr.name.text ++ attr.left.text ++ '=' :: attr.right.text ++
    attr.quote :: attr.value ++ [attr.quote]

/-- A lexical item of XML content. -/
inductive Lexeme where
  | startTag (name : XmlName) (attributes : List Attribute) (gap : Gap)
  | endTag (name : XmlName) (gap : Gap)
  | emptyTag (name : XmlName) (attributes : List Attribute) (gap : Gap)
  /-- A comment, in whose text no two hyphens stand together and the last character is none. -/
  | comment (body : Text) (single : Text.occurs ['-', '-'] body = false)
    (ending : body.getLast? ≠ some '-')
  /-- A CDATA section. -/
  | cdata (content : Text) (closed : Text.occurs [']', ']', '>'] content = false)
  /-- A processing instruction: its target, and all that follows it. -/
  | instruction (target : XmlName) (content : Text)
    (closed : Text.occurs ['?', '>'] content = false)
  /-- Character data. -/
  | run (raw : Text) (filled : raw ≠ []) (plain : '<' ∉ raw)

namespace Lexeme

/-- The written lexeme. -/
def write : Lexeme → Text
  | startTag name attributes gap =>
    '<' :: name.text ++ attributes.flatMap Attribute.write ++ gap.text ++ ['>']
  | endTag name gap => '<' :: '/' :: name.text ++ gap.text ++ ['>']
  | emptyTag name attributes gap =>
    '<' :: name.text ++ attributes.flatMap Attribute.write ++ gap.text ++ ['/', '>']
  | comment body _ _ => ['<', '!', '-', '-'] ++ body ++ ['-', '-', '>']
  | cdata content _ => ['<', '!', '[', 'C', 'D', 'A', 'T', 'A', '['] ++ content ++ [']', ']', '>']
  | instruction target content _ => ['<', '?'] ++ target.text ++ content ++ ['?', '>']
  | run raw _ _ => raw

/-- The part that some lexemes make up. -/
def writeAll (lexemes : List Lexeme) : Text :=
  lexemes.flatMap write

/-- Whether a lexeme is character data. -/
def isRun : Lexeme → Bool
  | run .. => true
  | _ => false

/-- The item that a lexeme is by the grammar. -/
def item (lexeme : Lexeme) : Item :=
  if lexeme.isRun then .text lexeme.write else .markup lexeme.write

/-- What the scan takes for a comment whose end it finds too early, because the mark that ends
comments stands there with hyphens of the opener, and what is left of the comment then. -/
def early? : Lexeme → Option (Text × Text)
  | comment ('>' :: rest) _ _ => some (['<', '!', '-', '-', '>'], rest ++ ['-', '-', '>'])
  | comment ('-' :: '>' :: rest) _ _ =>
    some (['<', '!', '-', '-', '-', '>'], rest ++ ['-', '-', '>'])
  | _ => none

theorem quoteStep_of_plain {c : Char} (plain : c ≠ '>' ∧ c ≠ '"' ∧ c ≠ '\'') :
    Item.quoteStep none c = some none := by
  simp [Item.quoteStep, plain]

theorem walk_plain {s : Text} (plain : ∀ c ∈ s, c ≠ '>' ∧ c ≠ '"' ∧ c ≠ '\'') :
    s.foldlM Item.quoteStep none = some none := by
  induction s with
  | nil => rfl
  | cons c s ih =>
    rw [List.forall_mem_cons] at plain
    rw [List.foldlM_cons, quoteStep_of_plain plain.1]
    exact ih plain.2

theorem plain_of_isNameChar {c : Char} (proper : isNameChar c = true) :
    c ≠ '>' ∧ c ≠ '"' ∧ c ≠ '\'' := by
  refine ⟨?_, ?_, ?_⟩ <;> rintro rfl <;> exact absurd proper (by decide)

theorem plain_of_isGap {c : Char} (proper : isGap c = true) : c ≠ '>' ∧ c ≠ '"' ∧ c ≠ '\'' := by
  refine ⟨?_, ?_, ?_⟩ <;> rintro rfl <;> exact absurd proper (by decide)

theorem walk_name (name : XmlName) : name.text.foldlM Item.quoteStep none = some none :=
  walk_plain fun c member => plain_of_isNameChar (List.all_eq_true.mp name.proper c member)

theorem walk_gap (gap : Gap) : gap.text.foldlM Item.quoteStep none = some none :=
  walk_plain fun c member => plain_of_isGap (List.all_eq_true.mp gap.proper c member)

/-- A quoted value ends with its quote. -/
theorem walk_value {quote : Char} {value : Text} (closed : quote ∉ value) :
    (value ++ [quote]).foldlM Item.quoteStep (some quote) = some none := by
  induction value with
  | nil => simp [Item.quoteStep]
  | cons c value ih =>
    rw [List.mem_cons, not_or] at closed
    have step : Item.quoteStep (some quote) c = some (some quote) := by
      simp [Item.quoteStep, Ne.symm closed.1]
    rw [List.cons_append, List.foldlM_cons, step]
    exact ih closed.2

/-- An attribute leaves no quote open. -/
theorem walk_attribute (attr : Attribute) :
    attr.write.foldlM Item.quoteStep none = some none := by
  obtain ⟨gap, name, left, right, quote, value, quotes, closed⟩ := attr
  have equals : Item.quoteStep none '=' = some none := quoteStep_of_plain (by decide)
  have opens : Item.quoteStep none quote = some (some quote) := by
    rcases quotes with rfl | rfl <;> rfl
  have inner := walk_value closed
  simp only [Attribute.write, List.append_assoc, List.cons_append, List.foldlM_append,
    List.foldlM_cons, walk_name, walk_gap, equals, opens, Option.bind_eq_bind, Option.bind_some]
    at inner ⊢
  exact inner

/-- Attributes are walked through without leaving a quote open. -/
theorem walk_attributes (attributes : List Attribute) :
    (attributes.flatMap Attribute.write).foldlM Item.quoteStep none = some none := by
  induction attributes with
  | nil => rfl
  | cons attr rest ih =>
    rw [List.flatMap_cons, List.foldlM_append, walk_attribute]
    exact ih

/-- Markup that begins with a name ends like a tag. -/
theorem terminator?_of_name (name : XmlName) (s : Text) :
    Item.terminator? ('<' :: (name.text ++ s)) = none := by
  obtain ⟨text, filled, proper⟩ := name
  obtain ⟨c, text, rfl⟩ := List.exists_cons_of_ne_nil filled
  have first : isNameChar c = true := List.all_eq_true.mp proper c List.mem_cons_self
  have mark : c ≠ '!' ∧ c ≠ '?' := by
    constructor <;> rintro rfl <;> exact absurd first (by decide)
  simp [Item.terminator?, List.isPrefixOf, Ne.symm mark.1, Ne.symm mark.2]

/-- A tag by its inside, which leaves no quote open. -/
theorem cut_tag {inside : Text} (walk : inside.foldlM Item.quoteStep none = some none)
    (plain : Item.terminator? ('<' :: (inside ++ ['>'])) = none) :
    Item.Cut ('<' :: (inside ++ ['>'])) := by
  have step : Item.quoteStep none '<' = some none := quoteStep_of_plain (by decide)
  refine Item.Cut.of_walk ('<' :: inside) rfl ?_ plain
  rw [List.foldlM_cons, step]
  exact walk

theorem cut_startTag (name : XmlName) (attributes : List Attribute) (gap : Gap) :
    Item.Cut (startTag name attributes gap).write := by
  have walk : (name.text ++ attributes.flatMap Attribute.write ++ gap.text).foldlM Item.quoteStep
      none = some none := by
    simp [List.foldlM_append, walk_name, walk_attributes, walk_gap]
  have plain := terminator?_of_name name (attributes.flatMap Attribute.write ++ gap.text ++ ['>'])
  have cut := cut_tag walk (by simpa using plain)
  simpa [write] using cut

theorem cut_emptyTag (name : XmlName) (attributes : List Attribute) (gap : Gap) :
    Item.Cut (emptyTag name attributes gap).write := by
  have slash : ['/'].foldlM Item.quoteStep none = some none := walk_plain (by simp)
  have walk : (name.text ++ attributes.flatMap Attribute.write ++ gap.text ++ ['/']).foldlM
      Item.quoteStep none = some none := by
    simp only [List.foldlM_append, walk_name, walk_attributes, walk_gap, slash, Option.bind_eq_bind,
      Option.bind_some]
  have plain := terminator?_of_name name
    (attributes.flatMap Attribute.write ++ gap.text ++ ['/', '>'])
  have cut := cut_tag walk (by simpa using plain)
  simpa [write] using cut

theorem cut_endTag (name : XmlName) (gap : Gap) : Item.Cut (endTag name gap).write := by
  have slash : ['/'].foldlM Item.quoteStep none = some none := walk_plain (by simp)
  have walk : (['/'] ++ name.text ++ gap.text).foldlM Item.quoteStep none = some none := by
    simp only [List.foldlM_append, walk_name, walk_gap, slash, Option.bind_eq_bind,
      Option.bind_some]
  have cut := cut_tag walk (by simp [Item.terminator?, List.isPrefixOf])
  simpa [write] using cut

theorem cut_cdata {content : Text} (closed : Text.occurs [']', ']', '>'] content = false) :
    Item.Cut (cdata content closed).write := by
  have listed : (['<', '!', '[', 'C', 'D', 'A', 'T', 'A', '['], [']', ']', '>']) ∈ Item.marks := by
    simp [Item.marks]
  refine Item.Cut.of_mark _ listed (by simp) ?_
  rw [Text.occurs_append_of_not_mem rfl (by decide), closed]

theorem cut_instruction {target : XmlName} {content : Text}
    (closed : Text.occurs ['?', '>'] content = false) :
    Item.Cut (instruction target content closed).write := by
  have named (c : Char) (member : c ∈ target.text) : c ≠ '?' ∧ c ≠ '>' := by
    have proper := List.all_eq_true.mp target.proper c member
    constructor <;> rintro rfl <;> exact absurd proper (by decide)
  have later : Text.occurs ['?', '>'] (target.text ++ content) = false := by
    rw [Text.occurs_append_of_not_mem rfl (fun member => (named _ member).1 rfl), closed]
  have listed : (['<', '?'], ['?', '>']) ∈ Item.marks := by simp [Item.marks]
  refine Item.Cut.of_mark _ listed (by simp) ?_
  obtain ⟨c, text, whole⟩ := List.exists_cons_of_ne_nil target.filled
  have first := (named c (by simp [whole])).2
  rw [whole] at later ⊢
  simp [Text.occurs, List.isPrefixOf, Ne.symm first] at later ⊢
  exact later

theorem early?_comment_eq_none {body : Text} {single : Text.occurs ['-', '-'] body = false}
    {ending : body.getLast? ≠ some '-'} (enduring : (comment body single ending).early? = none) :
    ['>'].isPrefixOf body = false ∧ ['-', '>'].isPrefixOf body = false := by
  rcases body with _ | ⟨c, _ | ⟨d, body⟩⟩
  · exact ⟨rfl, rfl⟩
  · have first : c ≠ '>' := by
      rintro rfl
      cases enduring
    simp [List.isPrefixOf, Ne.symm first]
  · have first : c ≠ '>' := by
      rintro rfl
      cases enduring
    have second : c = '-' → d ≠ '>' := by
      rintro rfl rfl
      cases enduring
    by_cases hyphen : c = '-'
    · simp [List.isPrefixOf, Ne.symm first, Ne.symm (second hyphen)]
    · simp [List.isPrefixOf, Ne.symm first, Ne.symm hyphen]

theorem commentMark_mem : (['<', '!', '-', '-'], ['-', '-', '>']) ∈ Item.marks := by
  simp [Item.marks]

/-- A comment that lasts to its end is cut off there. -/
theorem cut_comment {body : Text} {single : Text.occurs ['-', '-'] body = false}
    {ending : body.getLast? ≠ some '-'} (enduring : (comment body single ending).early? = none) :
    Item.Cut (comment body single ending).write := by
  have inside : Text.occurs ['-', '-', '>'] body = false := by
    rw [← Bool.not_eq_true] at single ⊢
    exact fun found => single (Text.occurs_of_occurs_append ['>'] (by simp) found)
  obtain ⟨first, second⟩ := early?_comment_eq_none enduring
  refine Item.Cut.of_mark _ commentMark_mem (by simp) ?_
  -- the mark could only begin with a hyphen of the opener
  simp [Text.occurs, List.isPrefixOf_cons_cons, first, second, inside]

/-- What is taken for a comment that ends early ends with a mark that overlaps the opener. -/
theorem cut_early {lexeme : Lexeme} {raw left : Text} (early : lexeme.early? = some (raw, left)) :
    Item.Cut raw ∧ lexeme.write = raw ++ left ∧ left ≠ [] := by
  unfold early? at early
  split at early
  · cases early
    exact ⟨Item.Cut.of_mark ['<', '!'] commentMark_mem (by simp) rfl, rfl, by simp⟩
  · cases early
    exact ⟨Item.Cut.of_mark ['<', '!', '-'] commentMark_mem (by simp) rfl, rfl, by simp⟩
  · cases early

/-- Every lexeme of markup that lasts to its end is cut off there, whatever follows it. -/
theorem cut_write {lexeme : Lexeme} (markup : lexeme.isRun = false)
    (enduring : lexeme.early? = none) : Item.Cut lexeme.write := by
  cases lexeme with
  | startTag name attributes gap => exact cut_startTag name attributes gap
  | endTag name gap => exact cut_endTag name gap
  | emptyTag name attributes gap => exact cut_emptyTag name attributes gap
  | comment body single ending => exact cut_comment enduring
  | cdata content closed => exact cut_cdata closed
  | instruction target content closed => exact cut_instruction closed
  | run raw filled plain => cases markup

theorem head?_write {lexeme : Lexeme} (markup : lexeme.isRun = false) :
    lexeme.write.head? = some '<' := by
  cases lexeme with
  | run raw filled plain => cases markup
  | _ => rfl

/-- Whether no two runs of character data stand side by side. -/
def Apart (lexemes : List Lexeme) : Prop :=
  lexemes.IsChain fun lexeme next => lexeme.isRun = false ∨ next.isRun = false

/-- A lexeme that lasts to its end is the first item of what it begins. -/
theorem scan_write_append {lexeme : Lexeme} (enduring : lexeme.early? = none) {after : Text}
    (border : lexeme.isRun = true → ∀ c ∈ after.head?, c = '<') :
    Item.scan (lexeme.write ++ after) = lexeme.item :: Item.scan after := by
  cases kind : lexeme.isRun with
  | false =>
    rw [item, kind, if_neg Bool.false_ne_true]
    exact Item.scan_cut (cut_write kind enduring) after
  | true =>
    rw [item, kind, if_pos rfl]
    cases lexeme with
    | run raw filled plain => exact Item.scan_text filled plain (border kind)
    | _ => cases kind

/-- The items of lexemes, none of which ends early, stand in front of those of what follows. -/
theorem scan_writeAll_append {front : List Lexeme} (apart : Apart front)
    (enduring : ∀ lexeme ∈ front, lexeme.early? = none) (rest : Text)
    (border : ∀ c ∈ rest.head?, c = '<') :
    Item.scan (writeAll front ++ rest) = front.map item ++ Item.scan rest := by
  induction front with
  | nil => rfl
  | cons lexeme front ih =>
    rw [List.forall_mem_cons] at enduring
    have later := ih apart.tail enduring.2
    rw [writeAll, List.flatMap_cons, List.append_assoc, scan_write_append enduring.1, ← writeAll,
      later, List.map_cons, List.cons_append]
    intro run
    cases front with
    | nil => exact border
    | cons next front =>
      have markup : next.isRun = false := by
        rcases (List.isChain_cons_cons.mp apart).1 with other | markup
        · simp [run] at other
        · exact markup
      intro c first
      simpa [writeAll, head?_write markup] using first.symm

theorem head?_early {lexeme : Lexeme} {found : Text × Text} (early : lexeme.early? = some found) :
    lexeme.isRun = false := by
  cases lexeme with
  | run raw filled plain => cases early
  | _ => rfl

/-- A comment that ends early is no item; what is left of it is scanned with what follows. -/
theorem scan_writeAll_of_early {before after : List Lexeme} {lexeme : Lexeme} {raw left : Text}
    (apart : Apart before) (enduring : ∀ lexeme ∈ before, lexeme.early? = none)
    (early : lexeme.early? = some (raw, left)) :
    Item.scan (writeAll (before ++ lexeme :: after)) =
      before.map item ++ .markup raw :: Item.scan (left ++ writeAll after) := by
  obtain ⟨cut, whole, _⟩ := cut_early early
  have split : writeAll (before ++ lexeme :: after) =
      writeAll before ++ (raw ++ (left ++ writeAll after)) := by
    rw [← List.append_assoc raw, ← whole]
    simp [writeAll]
  rw [split, scan_writeAll_append apart enduring, Item.scan_cut cut]
  intro c first
  simpa [List.head?_append, cut.opened] using first.symm

/-- The items of a part are its lexemes exactly if no comment ends early. If one does, all lexemes
before the first such comment are items, then comes the comment as far as it is taken for one, and
the rest of it is scanned with the rest of the part. -/
theorem scan_writeAll_iff {lexemes : List Lexeme} (apart : Apart lexemes) :
    (Item.scan (writeAll lexemes) = lexemes.map item ↔
      ∀ lexeme ∈ lexemes, lexeme.early? = none) ∧
    ∀ before lexeme after raw left, lexemes = before ++ lexeme :: after →
      (∀ earlier ∈ before, earlier.early? = none) → lexeme.early? = some (raw, left) →
      Item.scan (writeAll lexemes) =
        before.map item ++ .markup raw :: Item.scan (left ++ writeAll after) := by
  have cutShort (before : List Lexeme) (lexeme : Lexeme) (after : List Lexeme) (raw left : Text)
      (split : lexemes = before ++ lexeme :: after)
      (enduring : ∀ earlier ∈ before, earlier.early? = none)
      (early : lexeme.early? = some (raw, left)) : Item.scan (writeAll lexemes) =
        before.map item ++ .markup raw :: Item.scan (left ++ writeAll after) := by
    subst split
    exact scan_writeAll_of_early apart.left_of_append enduring early
  refine ⟨⟨fun same lexeme member => ?_, fun enduring => ?_⟩, cutShort⟩
  · -- the first comment that ends early would be an item and also only a part of one
    by_contra ends
    have some : (lexemes.find? fun lexeme => lexeme.early?.isSome).isSome = true := by
      rw [List.find?_isSome]
      exact ⟨lexeme, member, Option.isSome_iff_ne_none.mpr ends⟩
    obtain ⟨first, found⟩ := Option.isSome_iff_exists.mp some
    obtain ⟨early, before, after, split, enduring⟩ := List.find?_eq_some_iff_append.mp found
    obtain ⟨⟨raw, left⟩, early⟩ := Option.isSome_iff_exists.mp early
    have short := cutShort before first after raw left split
      (fun earlier member => by simpa using enduring earlier member) early
    obtain ⟨_, whole, more⟩ := cut_early early
    rw [same, split, List.map_append, List.map_cons, List.append_cancel_left_eq, item,
      head?_early early, if_neg Bool.false_ne_true, whole] at short
    have all : raw ++ left = raw := Item.markup.inj (List.cons.inj short).1
    exact more (by simpa using all)
  · have scanned := scan_writeAll_append apart enduring [] (by simp)
    simpa using scanned

/-- A part with lexemes of all kinds, each of which holds signs of the others. -/
def mixedLexemes : List Lexeme :=
  [.instruction ⟨"xml".toList, by decide, by decide⟩ " a='<b>' ?".toList (by decide),
    .startTag ⟨"w:t".toList, by decide, by decide⟩
      [⟨⟨[' '], by decide⟩, ⟨"w:val".toList, by decide, by decide⟩, ⟨[], by decide⟩,
        ⟨[], by decide⟩, '"', "a>b".toList, .inl rfl, by decide⟩]
      ⟨[], by decide⟩,
    .run "x > \"y".toList (by decide) (by decide),
    .comment " <w:t>' -> ".toList (by decide) (by decide),
    .cdata "</w:t>]".toList (by decide),
    .emptyTag ⟨"w:br".toList, by decide, by decide⟩ [] ⟨[' '], by decide⟩,
    .endTag ⟨"w:t".toList, by decide, by decide⟩ ⟨['\n'], by decide⟩]

/-- A comment that ends early, with character data on both sides. -/
def earlyLexemes : List Lexeme :=
  [.run ['a'] (by decide) (by decide), .comment ">b".toList (by decide) (by decide),
    .run ['c'] (by decide) (by decide)]

theorem scan_writeAll_iff_mixed :
    (Apart mixedLexemes ∧ Item.scan (writeAll mixedLexemes) = mixedLexemes.map item) ∧
      Apart earlyLexemes ∧ Item.scan (writeAll earlyLexemes) =
        [.text ['a'], .markup "<!-->".toList, .text "b-->c".toList] := by
  have mixed : Apart mixedLexemes := by
    unfold Apart
    decide
  have early : Apart earlyLexemes := by
    unfold Apart
    decide
  have enduring : mixedLexemes.all (·.early?.isNone) = true := rfl
  refine ⟨⟨mixed, (scan_writeAll_iff mixed).1.mpr fun lexeme member => ?_⟩, early, ?_⟩
  · simpa using List.all_eq_true.mp enduring lexeme member
  · have short := (scan_writeAll_iff early).2 (earlyLexemes.take 1) earlyLexemes[1]
      (earlyLexemes.drop 2) _ _ rfl (by simp [earlyLexemes, early?]) rfl
    rw [short]
    decide +kernel

/-- The comment, whose text begins with a greater-than sign, is no item of the part. -/
theorem scan_writeAll_ne_early :
    Apart earlyLexemes ∧ Item.scan (writeAll earlyLexemes) ≠ earlyLexemes.map item := by
  constructor
  · unfold Apart
    decide
  · decide +kernel

end Lexeme

end WordMerge
