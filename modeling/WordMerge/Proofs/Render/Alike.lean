import WordMerge.Proofs.Render.TemplateText
import WordMerge.Proofs.Template.Balancing

namespace WordMerge

namespace PlainText

/-- Reads some XML, one piece after the other. -/
def readXml (p : PlainText) (row : List Text) : PlainText :=
  row.foldl (fun p xml => (Item.scan xml).foldl step p) p

@[simp] theorem readXml_nil (p : PlainText) : p.readXml [] = p := rfl

theorem readXml_cons (p : PlainText) (xml : Text) (row : List Text) :
    p.readXml (xml :: row) = ((Item.scan xml).foldl step p).readXml row := rfl

theorem readXml_append (p : PlainText) (a b : List Text) :
    p.readXml (a ++ b) = (p.readXml a).readXml b :=
  List.foldl_append

theorem Same.readXml {p q : PlainText} (same : Same p q) (row : List Text) :
    Same (p.readXml row) (q.readXml row) := by
  induction row generalizing p q with
  | nil => exact same
  | cons xml row ih => exact ih (same.foldl _)

/-- The extraction is inside a text element if one is open. -/
def At (p : PlainText) (opened : List Text) : Prop :=
  p.inText = true ↔ opened.head? = some textName

/-- Reading XML goes from the end of one stretch to the end of the next. -/
theorem At.readXml {p : PlainText} {opened after : List Text} {row : List Text} (place : p.At opened)
    (innermost : TextInnermost opened)
    (walked : Edge.walk opened (row.flatMap Edge.scan) = some after) : (p.readXml row).At after := by
  induction row generalizing p opened with
  | nil =>
    cases walked
    exact place
  | cons xml row ih =>
    rw [List.flatMap_cons, Edge.walk_append_eq_some] at walked
    obtain ⟨between, here, later⟩ := walked
    exact ih (inText_of_walk here innermost place) (Edge.walk_innermost here innermost) later

end PlainText

/-- Two rows of XML that lead from some open elements to others and show the same text. -/
structure XmlAlike (opened : List Text) (a b : List Text) (after : List Text) : Prop where
  left : Edge.walk opened (a.flatMap Edge.scan) = some after
  right : Edge.walk opened (b.flatMap Edge.scan) = some after
  shown : ∀ p : PlainText, p.At opened → PlainText.Same (p.readXml a) (p.readXml b)

namespace XmlAlike

variable {opened between after : List Text} {a b c a' b' : List Text}

theorem refl (walked : Edge.walk opened (a.flatMap Edge.scan) = some after) :
    XmlAlike opened a a after :=
  ⟨walked, walked, fun _ _ => PlainText.Same.refl _⟩

theorem symm (alike : XmlAlike opened a b after) : XmlAlike opened b a after :=
  ⟨alike.right, alike.left, fun p place => (alike.shown p place).symm⟩

theorem trans (first : XmlAlike opened a b after) (second : XmlAlike opened b c after) :
    XmlAlike opened a c after :=
  ⟨first.left, second.right, fun p place => (first.shown p place).trans (second.shown p place)⟩

/-- Rows of XML that come to the same can be put together. -/
theorem append (innermost : TextInnermost opened) (first : XmlAlike opened a b between)
    (second : XmlAlike between a' b' after) : XmlAlike opened (a ++ a') (b ++ b') after := by
  refine ⟨?_, ?_, fun p place => ?_⟩
  · rw [List.flatMap_append, Edge.walk_append_eq_some]
    exact ⟨between, first.left, second.left⟩
  · rw [List.flatMap_append, Edge.walk_append_eq_some]
    exact ⟨between, first.right, second.right⟩
  · rw [PlainText.readXml_append, PlainText.readXml_append]
    have inside := place.readXml innermost first.left
    exact (second.shown _ inside).trans
      (((first.shown p place).readXml b'))

end XmlAlike

/-- Two rows of pieces with the same tags and XML that comes to the same, read from some open elements
to others. -/
inductive Piece.Alike : List Text → List Piece → List Piece → List Text → Prop
  | nil {opened : List Text} : Alike opened [] [] opened
  | xml {opened between after : List Text} {xml xml' : List Text} {a b : List Piece} :
      XmlAlike opened xml xml' between → Alike between a b after →
      Alike opened (xml.map .verbatim ++ a) (xml'.map .verbatim ++ b) after
  | tag {opened after : List Text} {s t : PlacedTag} {a b : List Piece} :
      s.toTag = t.toTag → (s.kind = .value → opened.head? = some textName) →
      Alike opened a b after → Alike opened (.tag s :: a) (.tag t :: b) after

namespace Piece.Alike

variable {opened between after : List Text} {a b a' b' : List Piece}

theorem symm (alike : Alike opened a b after) : Alike opened b a after := by
  induction alike with
  | nil => exact .nil
  | xml first _ ih => exact .xml first.symm ih
  | tag same inside _ ih =>
    refine .tag same.symm (fun kind => inside ?_) ih
    rw [same]
    exact kind

/-- Rows of pieces that come to the same can be put together. -/
theorem append (first : Alike opened a b between) (second : Alike between a' b' after) :
    Alike opened (a ++ a') (b ++ b') after := by
  induction first with
  | nil => exact second
  | xml here _ ih =>
    rw [List.append_assoc, List.append_assoc]
    exact .xml here (ih second)
  | tag same inside _ ih => exact .tag same inside (ih second)

theorem of_xml {xml xml' : List Text} (alike : XmlAlike opened xml xml' after) :
    Alike opened (xml.map .verbatim) (xml'.map .verbatim) after := by
  have one := Piece.Alike.xml alike .nil
  rwa [List.append_nil, List.append_nil] at one

end Piece.Alike

/-- Two rows of nodes with the same tags and XML that comes to the same. The body of a section leaves
the open elements as they were. -/
inductive Node.Alike : List Text → List Node → List Node → List Text → Prop
  | nil {opened : List Text} : Alike opened [] [] opened
  | xml {opened between after : List Text} {xml xml' : List Text} {a b : List Node} :
      XmlAlike opened xml xml' between → Alike between a b after →
      Alike opened (xml.map .verbatim ++ a) (xml'.map .verbatim ++ b) after
  | value {opened after : List Text} {s t : PlacedTag} {a b : List Node} :
      s.toTag = t.toTag → opened.head? = some textName → Alike opened a b after →
      Alike opened (.value s :: a) (.value t :: b) after
  | block {opened after : List Text} {s t : PlacedTag} {body body' a b : List Node} :
      s.toTag = t.toTag → Alike opened body body' opened → Alike opened a b after →
      Alike opened (.block s body :: a) (.block t body' :: b) after

namespace Node.Alike

/-- Rows of nodes that come to the same can be put together. -/
theorem append {opened between after : List Text} {a b a' b' : List Node}
    (first : Alike opened a b between) (second : Alike between a' b' after) :
    Alike opened (a ++ a') (b ++ b') after := by
  induction first with
  | nil => exact second
  | xml here _ ih =>
    rw [List.append_assoc, List.append_assoc]
    exact .xml here (ih second)
  | value same inside _ ih => exact .value same inside (ih second)
  | block same body _ _ ih => exact .block same body (ih second)

end Node.Alike

namespace PlacedTag

variable {s t : PlacedTag}

theorem valueXml_congr (same : s.toTag = t.toTag) (linebreaks : Bool) (scopes : List Value) :
    s.valueXml linebreaks scopes = t.valueXml linebreaks scopes := by
  unfold valueXml
  rw [same]

theorem sectionScopes_congr (same : s.toTag = t.toTag) (scopes : List Value) :
    s.sectionScopes scopes = t.sectionScopes scopes := by
  unfold sectionScopes
  rw [same]

theorem ownText?_congr (same : s.toTag = t.toTag) (scopes : List Value) :
    s.ownText? scopes = t.ownText? scopes := by
  unfold ownText?
  rw [same]

theorem turns?_congr (same : s.toTag = t.toTag) (scopes : List Value) :
    s.turns? scopes = t.turns? scopes := by
  unfold turns?
  rw [same]

end PlacedTag

namespace Node

theorem renderAll_append (linebreaks : Bool) (scopes : List Value) (draft : Draft)
    (a b : List Node) : renderAll linebreaks scopes draft (a ++ b) =
      renderAll linebreaks scopes (renderAll linebreaks scopes draft a) b := by
  induction a generalizing draft with
  | nil => rfl
  | cons node rest ih => exact ih _

/-- What two rows of nodes come to together. -/
theorem exists_fragments_of_append {scopes : List Value} {a b : List Node} {row : List Fragment}
    (comes : fragmentsAll? scopes (a ++ b) = some row) :
    ∃ front back, fragmentsAll? scopes a = some front ∧ fragmentsAll? scopes b = some back ∧
      row = front ++ back := by
  induction a generalizing row with
  | nil => exact ⟨[], row, rfl, comes, rfl⟩
  | cons node rest ih =>
    obtain ⟨first, others, here, later, rfl⟩ := fragmentsAll?_cons_eq_some.mp comes
    obtain ⟨front, back, inRest, behind, rfl⟩ := ih later
    exact ⟨first ++ front, back, fragmentsAll?_cons_eq_some.mpr ⟨first, front, here, inRest, rfl⟩,
      behind, (List.append_assoc _ _ _).symm⟩

/-- XML is written without faults. -/
theorem faults_renderAll_verbatim (linebreaks : Bool) (scopes : List Value) (draft : Draft)
    (row : List Text) :
    (renderAll linebreaks scopes draft (row.map .verbatim)).faults = draft.faults := by
  induction row generalizing draft with
  | nil => rfl
  | cons xml row ih =>
    rw [List.map_cons, renderAll_verbatim, ih]
    rfl

/-- What XML comes to is read as the XML. -/
theorem foldl_fragments_verbatim {scopes : List Value} {xml : List Text} {row : List Fragment}
    (comes : fragmentsAll? scopes (xml.map .verbatim) = some row) (linebreaks : Bool)
    (plain : PlainText) : row.foldl (PlainText.place linebreaks) plain = plain.readXml xml := by
  induction xml generalizing row plain with
  | nil =>
    cases comes
    rfl
  | cons first xml ih =>
    obtain ⟨_, back, here, later, rfl⟩ := fragmentsAll?_cons_eq_some.mp comes
    cases here
    rw [List.foldl_append, PlainText.foldl_place_items, ih later, PlainText.readXml_cons]

/-- Trees that come to the same have the same faults with any data. -/
theorem faults_of_alike {opened after : List Text} {a b : List Node} (alike : Alike opened a b after)
    (linebreaks : Bool) (scopes : List Value) {d e : Draft} (faults : d.faults = e.faults) :
    (renderAll linebreaks scopes d a).faults = (renderAll linebreaks scopes e b).faults := by
  induction alike generalizing scopes d e with
  | nil => exact faults
  | xml _ _ ih =>
    rw [renderAll_append, renderAll_append]
    refine ih scopes ?_
    rw [faults_renderAll_verbatim, faults_renderAll_verbatim, faults]
  | @value _ _ s t _ _ same _ _ ih =>
    rw [renderAll_value, renderAll_value, PlacedTag.valueXml_congr same]
    refine ih scopes ?_
    cases t.valueXml linebreaks scopes with
    | ok xml => exact faults
    | error fault => simp [Draft.report, faults]
  | @block _ _ s t _ _ _ _ same _ _ ihBody ih =>
    rw [renderAll_block, renderAll_block, PlacedTag.sectionScopes_congr same]
    refine ih scopes ?_
    cases t.sectionScopes scopes with
    | ok turns =>
      exact List.foldl_rel (r := fun d e : Draft => d.faults = e.faults) faults
        fun turn _ d e equal => ihBody turn equal
    | error fault => simp [Draft.report, faults]

/-- Turns that are read alike one by one are read alike one after the other. -/
theorem turns_alike {linebreaks : Bool} {body body' : List Node} {opened : List Text}
    (each : ∀ {inner row row' p q}, fragmentsAll? inner body = some row →
      fragmentsAll? inner body' = some row' → p.At opened → PlainText.Same p q →
      (row.foldl (PlainText.place linebreaks) p).At opened ∧ PlainText.Same
        (row.foldl (PlainText.place linebreaks) p) (row'.foldl (PlainText.place linebreaks) q))
    {turns : List (List Value)} {rows rows' : List (List Fragment)}
    (all : List.Forall₂ (fun inner row => fragmentsAll? inner body = some row) turns rows)
    (all' : List.Forall₂ (fun inner row => fragmentsAll? inner body' = some row) turns rows')
    {p q : PlainText} (place : p.At opened) (same : PlainText.Same p q) :
    (rows.flatten.foldl (PlainText.place linebreaks) p).At opened ∧ PlainText.Same
      (rows.flatten.foldl (PlainText.place linebreaks) p)
      (rows'.flatten.foldl (PlainText.place linebreaks) q) := by
  induction all generalizing rows' p q with
  | nil =>
    cases all'
    exact ⟨place, same⟩
  | cons here _ ih =>
    cases all' with
    | cons here' others' =>
      obtain ⟨place, same⟩ := each here here' place same
      rw [List.flatten_cons, List.flatten_cons, List.foldl_append, List.foldl_append]
      exact ih others' place same

/-- Trees that come to the same are read as the same text with any data. -/
theorem read_of_alike {opened after : List Text} {a b : List Node} (alike : Alike opened a b after)
    (innermost : TextInnermost opened) (linebreaks : Bool) {scopes : List Value}
    {row row' : List Fragment} (comes : fragmentsAll? scopes a = some row)
    (comes' : fragmentsAll? scopes b = some row') {p q : PlainText} (place : p.At opened)
    (same : PlainText.Same p q) :
    (row.foldl (PlainText.place linebreaks) p).At after ∧ PlainText.Same
      (row.foldl (PlainText.place linebreaks) p) (row'.foldl (PlainText.place linebreaks) q) := by
  induction alike generalizing scopes row row' p q with
  | nil =>
    cases comes
    cases comes'
    exact ⟨place, same⟩
  | @xml _ _ _ _ xml' _ _ here _ ih =>
    obtain ⟨_, _, first, later, rfl⟩ := exists_fragments_of_append comes
    obtain ⟨_, _, first', later', rfl⟩ := exists_fragments_of_append comes'
    rw [List.foldl_append, List.foldl_append, foldl_fragments_verbatim first,
      foldl_fragments_verbatim first']
    refine ih (Edge.walk_innermost here.left innermost) later later'
      (place.readXml innermost here.left) ?_
    exact (here.shown p place).trans (same.readXml xml')
  | value equal _ _ ih =>
    obtain ⟨_, _, first, later, rfl⟩ := fragmentsAll?_cons_eq_some.mp comes
    obtain ⟨_, _, first', later', rfl⟩ := fragmentsAll?_cons_eq_some.mp comes'
    obtain ⟨text, own, rfl⟩ := fragments?_value_eq_some.mp first
    obtain ⟨text', own', rfl⟩ := fragments?_value_eq_some.mp first'
    rw [PlacedTag.ownText?_congr equal] at own
    cases own.symm.trans own'
    exact ih innermost later later' place (same.add _)
  | block equal _ _ ihBody ih =>
    obtain ⟨_, _, first, later, rfl⟩ := fragmentsAll?_cons_eq_some.mp comes
    obtain ⟨_, _, first', later', rfl⟩ := fragmentsAll?_cons_eq_some.mp comes'
    obtain ⟨turns, rows, given, all, rfl⟩ := fragments?_block_eq_some.mp first
    obtain ⟨turns', rows', given', all', rfl⟩ := fragments?_block_eq_some.mp first'
    rw [PlacedTag.turns?_congr equal] at given
    cases given.symm.trans given'
    obtain ⟨place, same⟩ := turns_alike (fun here here' place same =>
      ihBody innermost here here' place same) all all' place same
    rw [List.foldl_append, List.foldl_append]
    exact ih innermost later later' place same

end Node

namespace XmlAlike

theorem scan_filter (row : List Text) :
    (row.filter (· ≠ [])).flatMap Edge.scan = row.flatMap Edge.scan := by
  induction row with
  | nil => rfl
  | cons xml row ih =>
    by_cases empty : xml = []
    · subst empty
      rw [List.flatMap_cons, Edge.scan_of_plain (by simp), List.nil_append, ← ih]
      rfl
    · rw [List.filter_cons_of_pos (by simpa using empty), List.flatMap_cons, ih, List.flatMap_cons]

theorem readXml_filter (p : PlainText) (row : List Text) :
    p.readXml (row.filter (· ≠ [])) = p.readXml row := by
  induction row generalizing p with
  | nil => rfl
  | cons xml row ih =>
    by_cases empty : xml = []
    · subst empty
      rw [PlainText.readXml_cons, Item.scan_nil, List.foldl_nil, ← ih]
      rfl
    · rw [List.filter_cons_of_pos (by simpa using empty), PlainText.readXml_cons, ih,
        PlainText.readXml_cons]

/-- Empty XML does not matter. -/
theorem filter {opened after : List Text} {a b : List Text} (alike : XmlAlike opened a b after) :
    XmlAlike opened (a.filter (· ≠ [])) (b.filter (· ≠ [])) after := by
  refine ⟨?_, ?_, fun p place => ?_⟩
  · rw [scan_filter, alike.left]
  · rw [scan_filter, alike.right]
  · rw [readXml_filter, readXml_filter]
    exact alike.shown p place

end XmlAlike

namespace Nesting

open Node

/-- Open sections with the same tags and bodies that come to the same, the innermost one first. The
outermost one begins where the `bottom` elements are open. -/
inductive OpenAlike (bottom : List Text) : List OpenSection → List OpenSection → List Text → Prop
  | nil : OpenAlike bottom [] [] bottom
  | cons {opened after : List Text} {s t : OpenSection} {outer outer' : List OpenSection}
      {x y : Balance} :
      OpenAlike bottom outer outer' opened → s.tag.toTag = t.tag.toTag →
      Node.Alike opened s.body.reverse t.body.reverse after →
      s.balance = some x → x.Explains opened after → t.balance = some y → y.Explains opened after →
      OpenAlike bottom (s :: outer) (t :: outer') after

theorem OpenAlike.length_eq {bottom opened : List Text} {a b : List OpenSection}
    (alike : OpenAlike bottom a b opened) : a.length = b.length := by
  induction alike with
  | nil => rfl
  | cons _ _ _ _ _ _ _ ih => rw [List.length_cons, List.length_cons, ih]

/-- Two trees on their way that have come to the same so far, without a fault. -/
structure Alike (m n : Nesting) (opened : List Text) : Prop where
  clean : m.faults = [] ∧ n.faults = []
  shallow : m.tooDeep = 0 ∧ n.tooDeep = 0
  nodes : ∃ bottom, Node.Alike [] m.root.reverse n.root.reverse bottom ∧
    OpenAlike bottom m.sections n.sections opened

variable {m n : Nesting} {opened after : List Text}

theorem alike_start : Alike {} {} [] :=
  ⟨⟨rfl, rfl⟩, ⟨rfl, rfl⟩, [], .nil, .nil⟩

/-- Finished nodes may be added to both. -/
theorem Alike.place {a b : List Node} (alike : Alike m n opened)
    (nodes : Node.Alike opened a b after) (left : Edge.passAll opened (ownEdges a) = some after)
    (right : Edge.passAll opened (ownEdges b) = some after) :
    Alike (a.foldl Nesting.place m) (b.foldl Nesting.place n) after := by
  obtain ⟨root, sections, faults, tooDeep⟩ := m
  obtain ⟨root', sections', faults', tooDeep'⟩ := n
  obtain ⟨clean, shallow, bottom, outside, inside⟩ := alike
  dsimp only at outside inside
  cases inside with
  | nil =>
    rw [foldl_place_root, foldl_place_root]
    refine ⟨clean, shallow, after, ?_, .nil⟩
    simpa using outside.append nodes
  | @cons start _ s t outer outer' x y below same body tracked explains tracked' explains' =>
    have grown := foldl_place_inner ⟨root, s :: outer, faults, tooDeep⟩ s outer a
    have grown' := foldl_place_inner ⟨root', t :: outer', faults', tooDeep'⟩ t outer' b
    dsimp only at grown grown'
    rw [grown, grown']
    obtain ⟨last, more, later⟩ := explains.exists_foldlM left
    obtain ⟨last', more', later'⟩ := explains'.exists_foldlM right
    refine ⟨clean, shallow, bottom, outside, .cons below same ?_ ?_ later ?_ later'⟩
    · simpa using body.append nodes
    · rw [tracked]
      exact more
    · rw [tracked']
      exact more'

/-- XML is added as nodes, except where it is empty. -/
theorem foldl_step_verbatim (n : Nesting) (row : List Text) :
    (row.map .verbatim).foldl step n =
      ((row.filter (· ≠ [])).map Node.verbatim).foldl Nesting.place n := by
  induction row generalizing n with
  | nil => rfl
  | cons xml row ih =>
    by_cases empty : xml = []
    · subst empty
      rw [List.map_cons, List.foldl_cons, ih]
      rfl
    · rw [List.filter_cons_of_pos (by simpa using empty), List.map_cons, List.map_cons,
        List.foldl_cons, List.foldl_cons, ih]
      simp [step, Nesting.place, empty]

theorem ownEdges_map_verbatim (row : List Text) :
    ownEdges (row.map .verbatim) = row.flatMap Edge.scan := by
  induction row with
  | nil => rfl
  | cons xml row ih => rw [List.map_cons, ownEdges_verbatim, ih, List.flatMap_cons]

/-- XML that comes to the same keeps two trees alike. -/
theorem Alike.xml {xml xml' : List Text} (alike : Alike m n opened)
    (rows : XmlAlike opened xml xml' after) :
    Alike ((xml.map .verbatim).foldl step m) ((xml'.map .verbatim).foldl step n) after := by
  have filled := rows.filter
  have nodes : Node.Alike opened ((xml.filter (· ≠ [])).map .verbatim)
      ((xml'.filter (· ≠ [])).map .verbatim) after := by
    simpa using Node.Alike.xml filled .nil
  rw [foldl_step_verbatim, foldl_step_verbatim]
  refine alike.place nodes ?_ ?_
  · rw [ownEdges_map_verbatim]
    exact Edge.passAll_of_walk filled.left
  · rw [ownEdges_map_verbatim]
    exact Edge.passAll_of_walk filled.right

/-- Opening tags that are the same keep two trees alike, as long as no fault is found. -/
theorem Alike.openSection {s t : PlacedTag} (alike : Alike m n opened) (same : s.toTag = t.toTag)
    (clean : (m.openSection s).faults = []) :
    Alike (m.openSection s) (n.openSection t) opened := by
  obtain ⟨none, shallow, bottom, outside, inside⟩ := alike
  have start : Balance.Explains {} opened opened := ⟨opened, rfl, rfl⟩
  unfold Nesting.openSection at clean ⊢
  rw [← inside.length_eq]
  by_cases room : m.sections.length < depthLimit
  · rw [if_pos room, if_pos room]
    exact ⟨none, shallow, bottom, outside, .cons inside same .nil rfl start rfl start⟩
  · simp [if_neg room, report] at clean

/-- A section that can be repeated is added as one node when it is closed under its name. -/
theorem closeSection_eq_place {root : List Node} {inner : OpenSection} {outer : List OpenSection}
    {faults : List TagFault} {name : Text} (same : inner.tag.name = name)
    (balanced : Balance.isBalanced inner.balance = true) :
    Nesting.closeSection ⟨root, inner :: outer, faults, 0⟩ name =
      [Node.block inner.tag inner.body.reverse].foldl Nesting.place ⟨root, outer, faults, 0⟩ := by
  simp [closeSection, OpenSection.closingFault?, same, balanced, Nesting.place, OpenSection.close]

/-- Closing tags of one name keep two trees alike, as long as no fault is found. -/
theorem Alike.closeSection {name : Text} (alike : Alike m n opened)
    (clean : (m.closeSection name).faults = []) :
    Alike (m.closeSection name) (n.closeSection name) opened := by
  obtain ⟨root, sections, faults, tooDeep⟩ := m
  obtain ⟨root', sections', faults', tooDeep'⟩ := n
  obtain ⟨none, ⟨shallow, shallow'⟩, bottom, outside, inside⟩ := alike
  dsimp only at shallow shallow' outside inside
  subst shallow shallow'
  cases inside with
  | nil => simp [Nesting.closeSection, report] at clean
  | @cons start _ s t outer outer' x y below same body tracked explains tracked' explains' =>
    have fits : s.tag.name = name ∧ Balance.isBalanced s.balance = true := by
      refine OpenSection.closingFault?_eq_none.mp ?_
      cases closing : s.closingFault? name with
      | none => rfl
      | some fault => simp [Nesting.closeSection, closing, report] at clean
    obtain ⟨named, balanced⟩ := fits
    have around : opened = start := by
      rw [tracked] at balanced
      exact explains.isBalanced_iff.mp balanced
    subst around
    have balanced' : Balance.isBalanced t.balance = true := by
      rw [tracked']
      exact explains'.isBalanced_iff.mpr rfl
    have named' : t.tag.name = name := by rw [← named, same]
    rw [closeSection_eq_place named balanced, closeSection_eq_place named' balanced']
    exact Alike.place ⟨none, ⟨rfl, rfl⟩, bottom, outside, below⟩ (.block same body .nil) rfl rfl

/-- As long as no fault is found in the first row, both trees come to the same. -/
theorem Alike.foldl_step {a b : List Piece} (pieces : Piece.Alike opened a b after)
    (alike : Alike m n opened) (clean : (a.foldl step m).faults = []) :
    Alike (a.foldl step m) (b.foldl step n) after := by
  induction pieces generalizing m n with
  | nil => exact alike
  | xml rows _ ih =>
    rw [List.foldl_append] at clean ⊢
    rw [List.foldl_append]
    exact ih (alike.xml rows) clean
  | @tag opened _ s t _ _ same inside _ ih =>
    rw [List.foldl_cons] at clean ⊢
    rw [List.foldl_cons]
    have first : (m.step (.tag s)).faults = [] := faults_eq_nil_of_foldl clean
    refine ih ?_ clean
    have kinds : t.kind = s.kind := by rw [same]
    have names : t.name = s.name := by rw [same]
    simp only [Nesting.step] at first ⊢
    rw [kinds]
    cases kind : s.kind with
    | value =>
      have value : Node.Alike opened [.value s] [.value t] opened := .value same (inside kind) .nil
      exact alike.place value rfl rfl
    | opening =>
      rw [kind] at first
      exact alike.openSection same first
    | inverted =>
      rw [kind] at first
      exact alike.openSection same first
    | closing =>
      rw [kind] at first
      rw [names]
      exact alike.closeSection first

/-- Of two rows of pieces that come to the same, both have sections that fit or none has, and so do
their trees come to the same. -/
theorem nodes_of_alike {a b : List Piece} (pieces : Piece.Alike [] a b after)
    (clean : (ofPieces a).allFaults = []) :
    (ofPieces b).allFaults = [] ∧ Node.Alike [] (ofPieces a).nodes (ofPieces b).nodes after := by
  obtain ⟨noted, unclosed⟩ := List.append_eq_nil_iff.mp clean
  have none : (ofPieces a).sections = [] := by simpa using unclosed
  obtain ⟨⟨_, clean'⟩, _, bottom, outside, inside⟩ :=
    alike_start.foldl_step pieces (List.reverse_eq_nil_iff.mp noted)
  change OpenAlike bottom (ofPieces a).sections (ofPieces b).sections after at inside
  change (ofPieces b).faults = [] at clean'
  change Node.Alike [] (ofPieces a).root.reverse (ofPieces b).root.reverse bottom at outside
  have lengths := inside.length_eq
  rw [none] at inside
  generalize sections : (ofPieces b).sections = rest at inside
  cases inside
  refine ⟨by simp [allFaults, clean', sections], ?_⟩
  rw [nodes, nodes, none, sections, closeAll, closeAll]
  exact outside

end Nesting

end WordMerge
