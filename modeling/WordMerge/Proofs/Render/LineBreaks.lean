import WordMerge.Proofs.Render.Finished
import WordMerge.Proofs.Render.TemplateText

namespace WordMerge

/-- A text with one line feed for each carriage return that has a line feed right behind it. -/
def lineFeeds : Text → Text
  | [] => []
  | '\r' :: '\n' :: rest => '\n' :: lineFeeds rest
  | c :: rest => c :: lineFeeds rest

example : lineFeeds "a\r\nb\rc\n\r".toList = "a\nb\rc\n\r".toList := by decide

namespace Text

/-- Induction over the lines of a text. -/
@[elab_as_elim]
theorem line_induction {motive : Text → Prop} (last : ∀ line, '\n' ∉ line → motive line)
    (more : ∀ line rest, '\n' ∉ line → motive rest → motive (line ++ '\n' :: rest)) (s : Text) :
    motive s := by
  induction length : s.length using Nat.strongRecOn generalizing s with
  | ind n ih =>
    by_cases broken : '\n' ∈ s
    · obtain ⟨line, rest, rfl, plain⟩ := List.eq_append_cons_of_mem broken
      exact more line rest plain (ih rest.length (by simp at length; omega) rest rfl)
    · exact last s broken

theorem splitOn_of_plain {line : Text} (plain : '\n' ∉ line) : line.splitOn '\n' = [line] :=
  List.splitOn_eq_singleton plain

theorem length_splitOn (s : Text) : (s.splitOn '\n').length = s.count '\n' + 1 := by
  induction s using line_induction with
  | last line plain => simp [splitOn_of_plain plain, List.count_eq_zero_of_not_mem plain]
  | more line rest plain ih =>
    rw [List.splitOn_append_cons_self_of_not_mem plain, List.length_cons, ih, List.count_append,
      List.count_eq_zero_of_not_mem plain, List.count_cons_self]
    omega

end Text

theorem lineFeeds_cons {c : Char} {rest : Text} (other : c = '\r' → rest.head? ≠ some '\n') :
    lineFeeds (c :: rest) = c :: lineFeeds rest := by
  rw [lineFeeds]
  rintro rest rfl rfl
  exact other rfl rfl

/-- Only a carriage return at the very end is left out. -/
theorem chomp_cons {c : Char} {rest : Text} (more : c = '\r' → rest ≠ []) :
    chomp (c :: rest) = c :: chomp rest := by
  cases rest with
  | nil =>
    have other : c ≠ '\r' := fun same => more same rfl
    simp [chomp, other]
  | cons d rest =>
    simp only [chomp, List.getLast?_cons_cons]
    split <;> rfl

theorem lineFeeds_of_plain {line : Text} (plain : '\n' ∉ line) : lineFeeds line = line := by
  induction line with
  | nil => rfl
  | cons c rest ih =>
    rw [List.mem_cons, not_or] at plain
    rw [lineFeeds_cons fun _ first => plain.2 (List.mem_of_mem_head? first), ih plain.2]

/-- Behind a line without line feeds, only its own carriage return belongs to the line feed. -/
theorem lineFeeds_append {line : Text} (plain : '\n' ∉ line) (rest : Text) :
    lineFeeds (line ++ '\n' :: rest) = chomp line ++ '\n' :: lineFeeds rest := by
  induction line with
  | nil => exact lineFeeds_cons (by simp)
  | cons c line ih =>
    rw [List.mem_cons, not_or] at plain
    by_cases pair : c = '\r' ∧ line = []
    · obtain ⟨rfl, rfl⟩ := pair
      rfl
    · have filled : c = '\r' → line ≠ [] := fun same empty => pair ⟨same, empty⟩
      rw [List.cons_append, chomp_cons filled, List.cons_append, ← ih plain.2]
      refine lineFeeds_cons fun same first => plain.2 ?_
      obtain ⟨d, line, rfl⟩ := List.exists_cons_of_ne_nil (filled same)
      exact Option.some.inj first ▸ List.mem_cons_self

theorem chomp_append (line rest : Text) :
    chomp (line ++ '\n' :: rest) = line ++ '\n' :: chomp rest := by
  induction line with
  | nil => exact chomp_cons (by simp)
  | cons c line ih => rw [List.cons_append, chomp_cons (by simp), ih, List.cons_append]

/-- A carriage return at the end stays, as no line feed comes behind it. -/
theorem lineFeeds_concat (s : Text) : lineFeeds (s ++ ['\r']) = lineFeeds s ++ ['\r'] := by
  fun_induction lineFeeds s with
  | case1 => rfl
  | case2 rest ih => simp [lineFeeds, ih]
  | case3 c rest other ih =>
    rw [List.cons_append, lineFeeds_cons, ih, List.cons_append]
    intro same first
    cases rest with
    | nil => cases first
    | cons d rest => exact other rest same (congrArg (· :: rest) (Option.some.inj first))

/-- Nothing but pairs is changed exactly where the text does not end with a carriage return. -/
theorem lineFeeds_chomp_eq_iff (s : Text) :
    lineFeeds (chomp s) = lineFeeds s ↔ s.getLast? ≠ some '\r' := by
  constructor
  · intro same last
    obtain ⟨front, rfl⟩ := List.getLast?_eq_some_iff.mp last
    have shorter : chomp (front ++ ['\r']) = front := by simp [chomp]
    rw [shorter, lineFeeds_concat] at same
    simp at same
  · intro kept
    rw [chomp, if_neg kept]

/-- The lines of a value without their carriage returns, joined again. -/
theorem ownLines_eq_lineFeeds (s : Text) : ownLines true s = lineFeeds (chomp s) := by
  rw [ownLines_eq, if_pos rfl]
  induction s using Text.line_induction with
  | last line plain =>
    have inner : '\n' ∉ chomp line := fun member => plain (chomp_subset line member)
    rw [Text.splitOn_of_plain plain, List.map_singleton, List.intercalate_singleton,
      lineFeeds_of_plain inner]
  | more line rest plain ih =>
    obtain ⟨first, others, lines⟩ := List.exists_cons_of_ne_nil (List.splitOn_ne_nil '\n' rest)
    rw [List.splitOn_append_cons_self_of_not_mem plain, chomp_append, lineFeeds_append plain, ← ih,
      lines, List.map_cons, List.map_cons, List.intercalate_cons_cons, List.append_assoc]
    rfl

/-- A string in a text element, where line breaks are wanted: it is written in pieces of character
data with a line break between any two of them, one line break for each line feed. Read again and
joined by line feeds, the pieces are the string with one line feed for each pair of a carriage
return and a line feed, after a carriage return at its end is taken away; exactly where it ends
otherwise, nothing else is lost. This is what an extraction adds to what it has found. -/
theorem Node.render_lineBreaks {scopes : List Value} {tag : PlacedTag} {s : Text}
    (found : Scope.lookup? scopes tag.name = some (.string s)) (draft : Draft) :
    ∃ pieces : List Text,
      Node.render true scopes draft (.value tag) = draft.write (lineBreakXml.intercalate pieces) ∧
      (∀ piece ∈ pieces, '<' ∉ piece) ∧
      pieces.length = s.count '\n' + 1 ∧
      ['\n'].intercalate (pieces.map Entity.unescape) = lineFeeds (chomp s) ∧
      (['\n'].intercalate (pieces.map Entity.unescape) = lineFeeds s ↔
        s.getLast? ≠ some '\r') ∧
      ∀ outer plain, draft.Reads (textName :: outer) plain →
        (Node.render true scopes draft (.value tag)).Reads (textName :: outer)
          (plain.add (lineFeeds (chomp s))) := by
  let pieces := (s.splitOn '\n').map fun line => Entity.escape (chomp line)
  have written : Node.render true scopes draft (.value tag) =
      draft.write (lineBreakXml.intercalate pieces) := by
    simp [Node.render, PlacedTag.valueXml, found, Value.text?, valueXml, pieces]
  have own : ['\n'].intercalate (pieces.map Entity.unescape) = lineFeeds (chomp s) := by
    rw [← ownLines_eq_lineFeeds, ownLines_eq, if_pos rfl, List.map_map]
    congr 1
    exact List.map_congr_left fun line _ => Entity.unescape_escape (chomp line)
  refine ⟨pieces, written, ?_, ?_, own, ?_, fun outer plain reads => ?_⟩
  · intro piece member
    obtain ⟨line, _, rfl⟩ := List.mem_map.mp member
    exact Entity.not_mem_escape _
  · rw [List.length_map, Text.length_splitOn]
  · rw [own, lineFeeds_chomp_eq_iff]
  · have shows := PlainText.shows_valueXml true s
    have keeps := Edge.keeps_valueXml true s reads.leaves.outside
    rw [valueXml, if_pos rfl] at shows keeps
    rw [written, ← ownLines_eq_lineFeeds]
    refine reads.write shows.whole shows.referenced keeps.walked fun p same => ?_
    have inText : plain.inText = true := reads.inText.mpr rfl
    exact (shows.shown p (same.inText.trans inText)).trans (same.add _)

/-- A text element with a value tag. -/
def notePart : Text :=
  "<w:p><w:r><w:t>\x7bv\x7d</w:t></w:r></w:p>".toList

/-- The tag in it. -/
def noteTag : PlacedTag :=
  ⟨⟨.value, ['v']⟩, some 0, none, none⟩

/-- Data with a string for it. -/
def noteData (s : Text) : Value :=
  .object [(['v'], .string s)]

/-- The note with a value is rendered as its frame around what is written of the value. -/
theorem renderPart_notePart (s : Text) :
    renderPart notePart (noteData s) {} = .ok (Cell.repair
      ("<w:p><w:r><w:t xml:space=\"preserve\">".toList ++ valueXml true s ++
        "</w:t></w:r></w:p>".toList)) := by
  have read : (Layout.ofPart notePart).pieces.toList =
      [.verbatim "<w:p>".toList, .verbatim "<w:r>".toList,
        .verbatim "<w:t xml:space=\"preserve\">".toList, .tag noteTag, .verbatim "</w:t>".toList,
        .verbatim "</w:r>".toList, .verbatim "</w:p>".toList] ∧
      (Layout.ofPart notePart).faults = [] := by decide +kernel
  have pairs : (SectionPairs.scan {} 0 (Layout.ofPart notePart).pieces.toList).pairs = [] := by
    decide +kernel
  have still := Layout.widened_of_no_pairs
    (by rw [SectionPairs.ofPieces, pairs, List.mergeSort_nil]) {}
  have found : Scope.lookup? [noteData s] ['v'] = some (.string s) := rfl
  rw [renderPart, Layout.nesting, still, read.1, read.2]
  simp [Nesting.ofPieces, Nesting.step, Nesting.track, Nesting.add, noteTag, Nesting.nodes,
    Nesting.closeAll, Nesting.allFaults, Node.renderAll_verbatim, Node.renderAll_value,
    PlacedTag.valueXml, found, Value.text?, Draft.write, Draft.xml]

/-- A text of two lines with a carriage return inside the second one. -/
def twoLines : Text :=
  "a\r\nb\rc".toList

theorem Node.render_lineBreaks_twoLines :
    Scope.lookup? [noteData twoLines] noteTag.name = some (.string twoLines) ∧
      ∃ pieces : List Text,
        Node.render true [noteData twoLines] {} (.value noteTag) =
          Draft.write {} (lineBreakXml.intercalate pieces) ∧
        pieces.length = 2 ∧
        ['\n'].intercalate (pieces.map Entity.unescape) = "a\nb\rc".toList := by
  have found : Scope.lookup? [noteData twoLines] noteTag.name = some (.string twoLines) := by rfl
  have kept : twoLines.getLast? ≠ some '\r' := by decide
  obtain ⟨pieces, written, _, count, _, read, _⟩ := Node.render_lineBreaks found {}
  exact ⟨found, pieces, written, count, read.mpr kept⟩

/-- The carriage return at the end of a value is lost, though no line feed comes behind it. -/
theorem plainText_ne_lastReturn :
    ∃ out, renderPart notePart (noteData ['x', '\r']) {} = .ok out ∧
      PlainText.ofPart out = ['x', '\n'] ∧
      PlainText.ofPart out ≠ lineFeeds ['x', '\r'] ++ ['\n'] :=
  ⟨_, renderPart_notePart _, by decide +kernel, by decide +kernel⟩

end WordMerge
