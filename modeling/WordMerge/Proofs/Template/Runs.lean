import WordMerge.Proofs.Template.SplitReading

namespace WordMerge

/-- The start tag of a run. -/
def runStartTag : Text := ['<', 'w', ':', 'r', '>']
/-- The end tag of a run. -/
def runEndTag : Text := ['<', '/', 'w', ':', 'r', '>']
/-- The start tag of a text element. -/
def textStartTag : Text := ['<', 'w', ':', 't', '>']
/-- The end tag of a text element. -/
def textEndTag : Text := ['<', '/', 'w', ':', 't', '>']
/-- The end tag of a paragraph. -/
def paragraphEndTag : Text := ['<', '/', 'w', ':', 'p', '>']
/-- The name of a run. -/
def runName : Text := ['w', ':', 'r']

/-- A run: how a text looks, and the text. -/
structure Run where
  /-- The markup that tells how the text looks. -/
  properties : Text
  /-- The text, with references. -/
  fragment : Text
  deriving DecidableEq, Repr

/-- A paragraph. -/
structure Paragraph where
  /-- Its start tag. -/
  opening : Text
  /-- The markup that tells how the paragraph looks. -/
  properties : Text
  /-- The runs into which its text is cut. -/
  runs : List Run
  deriving DecidableEq, Repr

/-- A document: paragraphs and what stands around them, such as tables. -/
structure Document where
  /-- What stands in front of the first paragraph. -/
  front : Text
  /-- The paragraphs, each with what stands between it and the next one. -/
  body : List (Paragraph × Text)
  deriving DecidableEq, Repr

/-- The XML of a run. -/
def Run.source (run : Run) : Text :=
  runStartTag ++ run.properties ++ textStartTag ++ run.fragment ++ textEndTag ++ runEndTag

namespace Paragraph

/-- The XML of a paragraph. -/
def source (paragraph : Paragraph) : Text :=
  paragraph.opening ++ paragraph.properties ++ paragraph.runs.flatMap Run.source ++ paragraphEndTag

/-- The text of a paragraph, with references. -/
def text (paragraph : Paragraph) : Text :=
  paragraph.runs.flatMap Run.fragment

/-- The paragraph with its text in one run, if there is a text. -/
def joined (paragraph : Paragraph) : Paragraph :=
  { paragraph with runs := if paragraph.text = [] then [] else [⟨[], paragraph.text⟩] }

end Paragraph

namespace Document

/-- The XML of a document. -/
def source (document : Document) : Text :=
  document.front ++ document.body.flatMap fun entry => entry.1.source ++ entry.2

/-- What stands around the paragraphs. -/
def frames (document : Document) : List Text :=
  document.front :: document.body.map Prod.snd

/-- The document with the text of every paragraph in one run. -/
def joined (document : Document) : Document :=
  { document with body := document.body.map fun entry => (entry.1.joined, entry.2) }

end Document

/-- Properties: markup whose elements come out even, without paragraphs, texts and line breaks. -/
structure Properties (xml : Text) : Prop where
  whole : Text.Whole xml
  textless : Item.scan xml = (Item.markups xml).map .markup
  balanced : Edge.passAll [] (Edge.scan xml) = some []
  silent : ∀ edge ∈ Edge.scan xml, Landmark.ofEdge edge ∉
    [.paragraphStart, .paragraphEnd, .textStart, .textEnd, .lineBreak]

/-- A run whose text is character data that does not end or begin inside a reference. -/
structure Run.Valid (run : Run) : Prop where
  properties : Properties run.properties
  plain : '<' ∉ run.fragment
  complete : Entity.Complete run.fragment

/-- A paragraph of runs. Its properties do not end in a table. -/
structure Paragraph.Valid (paragraph : Paragraph) : Prop where
  opening : Item.Cut paragraph.opening
  edge : Edge.ofMarkup? paragraph.opening = some ⟨paragraphName, .opening⟩
  properties : Properties paragraph.properties
  rowless : ∀ edge ∈ Edge.scan paragraph.properties, Landmark.ofEdge edge ≠ .rowEnd
  runs : ∀ run ∈ paragraph.runs, run.Valid

/-- What stands around paragraphs: XML without text elements. -/
structure Frame (xml : Text) : Prop where
  whole : Text.Whole xml
  referenced : Text.Referenced xml
  textless : Edge.textOpening ∉ Edge.scan xml

/-- A document of paragraphs of runs, around which the elements nest. -/
structure Document.Valid (document : Document) : Prop where
  frames : ∀ frame ∈ document.frames, Frame frame
  nested : Edge.passAll [] (document.frames.flatMap Edge.scan) = some []
  paragraphs : ∀ entry ∈ document.body, entry.1.Valid

namespace Item

theorem join_map_markup (row : List Text) (b : List Item) :
    join (row.map .markup) b = row.map .markup ++ b := by
  induction row with
  | nil => rfl
  | cons raw row ih => rw [List.map_cons, join_markup, ih, List.cons_append]

theorem cut_runStartTag : Cut runStartTag := cut_of_scan (by decide +kernel) (by decide)

theorem cut_runEndTag : Cut runEndTag := cut_of_scan (by decide +kernel) (by decide)

theorem cut_textStartTag : Cut textStartTag := cut_of_scan (by decide +kernel) (by decide)

theorem cut_textEndTag : Cut textEndTag := cut_of_scan (by decide +kernel) (by decide)

theorem cut_paragraphEndTag : Cut paragraphEndTag := cut_of_scan (by decide +kernel) (by decide)

end Item

namespace Run

theorem plain_flatMap {runs : List Run} (valid : ∀ run ∈ runs, run.Valid) :
    '<' ∉ runs.flatMap Run.fragment := by
  rw [List.mem_flatMap]
  rintro ⟨run, member, inside⟩
  exact (valid run member).plain inside

/-- The markup of a run in front of its text. -/
def front (run : Run) : List Text :=
  runStartTag :: Item.markups run.properties ++ [textStartTag]

/-- The markup of a run behind its text. -/
def back : List Text :=
  [textEndTag, runEndTag]

/-- The items of a run. -/
def items (run : Run) : List Item :=
  run.front.map .markup ++ Item.scan run.fragment ++ back.map .markup

/-- A run has its own items, whatever follows it. -/
theorem Valid.scan_source {run : Run} (valid : run.Valid) (after : Text) :
    Item.scan (run.source ++ after) = run.items ++ Item.scan after := by
  have behind : Item.scan (run.fragment ++ (textEndTag ++ (runEndTag ++ after))) =
      Item.scan run.fragment ++ (back.map .markup ++ Item.scan after) := by
    rw [Item.scan_append_of_border (Text.whole_of_plain valid.plain) (by simp [textEndTag]),
      Item.scan_cut Item.cut_textEndTag, Item.scan_cut Item.cut_runEndTag]
    rfl
  simp only [source, List.append_assoc]
  rw [Item.scan_cut Item.cut_runStartTag, Item.scan_append valid.properties.whole,
    valid.properties.textless, Item.join_map_markup, Item.scan_cut Item.cut_textStartTag, behind]
  simp [items, front]

end Run

namespace Paragraph

/-- The markup of a paragraph in front of its runs. -/
def head (paragraph : Paragraph) : List Text :=
  paragraph.opening :: Item.markups paragraph.properties

/-- The items of a paragraph. -/
def items (paragraph : Paragraph) : List Item :=
  paragraph.head.map .markup ++ paragraph.runs.flatMap Run.items ++ [.markup paragraphEndTag]

/-- A paragraph has the items of its runs, whatever follows it. -/
theorem Valid.scan_source {paragraph : Paragraph} (valid : paragraph.Valid) (after : Text) :
    Item.scan (paragraph.source ++ after) = paragraph.items ++ Item.scan after := by
  have inner (runs : List Run) (each : ∀ run ∈ runs, run.Valid) (after : Text) :
      Item.scan (runs.flatMap Run.source ++ after) = runs.flatMap Run.items ++ Item.scan after := by
    induction runs with
    | nil => rfl
    | cons run runs ih =>
      rw [List.forall_mem_cons] at each
      rw [List.flatMap_cons, List.append_assoc, each.1.scan_source, ih each.2, List.flatMap_cons,
        List.append_assoc]
  simp only [source, List.append_assoc]
  rw [Item.scan_cut valid.opening, Item.scan_append valid.properties.whole, valid.properties.textless,
    Item.join_map_markup, inner _ valid.runs, Item.scan_cut Item.cut_paragraphEndTag]
  simp [items, head]

end Paragraph

namespace Document

/-- The items of a document. -/
def items (document : Document) : List Item :=
  Item.scan document.front ++ document.body.flatMap fun entry => entry.1.items ++ Item.scan entry.2

/-- A document has the items of its paragraphs and of what stands between them. -/
theorem Valid.scan_source {document : Document} (valid : document.Valid) :
    Item.scan document.source = document.items := by
  have general (body : List (Paragraph × Text)) (each : ∀ entry ∈ body, entry.1.Valid)
      (frames : ∀ entry ∈ body, Frame entry.2) {front : Text} (first : Frame front) :
      Item.scan (front ++ body.flatMap fun entry => entry.1.source ++ entry.2) =
        Item.scan front ++ body.flatMap fun entry => entry.1.items ++ Item.scan entry.2 := by
    induction body generalizing front with
    | nil => simp
    | cons entry body ih =>
      rw [List.forall_mem_cons] at each frames
      have border : ∀ c ∈ (((entry :: body).flatMap fun entry => entry.1.source ++ entry.2)).head?,
          c = '<' := by
        have opened := each.1.opening.opened
        intro c first
        simpa [Paragraph.source, List.head?_append, opened, eq_comm] using first
      rw [Item.scan_append_of_border first.whole border, List.flatMap_cons, List.append_assoc,
        each.1.scan_source, ih each.2 frames.2 frames.1, List.flatMap_cons, List.append_assoc]
  have frames := valid.frames
  rw [Document.frames, List.forall_mem_cons] at frames
  refine general document.body valid.paragraphs (fun entry member => ?_) frames.1
  exact frames.2 entry.2 (List.mem_map_of_mem member)

end Document

namespace Edge

/-- Markup that nests among its own elements does so wherever no text element is the innermost one. -/
theorem walk_append_right {opened after outer : List Text} {edges : List Edge}
    (walked : walk opened edges = some after) (outside : outer.head? ≠ some textName) :
    walk (opened ++ outer) edges = some (after ++ outer) := by
  induction edges generalizing opened with
  | nil =>
    cases walked
    rfl
  | cons edge rest ih =>
    obtain ⟨next, step, walked⟩ := Option.bind_eq_some_iff.mp walked
    have lifted : passInText (opened ++ outer) edge = some (next ++ outer) := by
      obtain ⟨passed, inText⟩ := passInText_eq_some step
      have free : ¬ ((opened ++ outer).head? = some textName ∧ edge ≠ textClosing) := by
        rintro ⟨inside, other⟩
        cases opened with
        | nil => exact outside inside
        | cons top opened => exact other (inText inside)
      rw [passInText, if_neg free, pass_append_right passed]
    rw [walk_cons, lifted, Option.bind_some, ih walked]

theorem not_mem_of_pass {opened after : List Text} {edge : Edge}
    (passed : pass opened edge = some after) (other : edge ≠ textOpening)
    (outside : textName ∉ opened) : textName ∉ after := by
  cases pass_eq_some.mp passed with
  | empty name => exact outside
  | opening name =>
    rw [List.mem_cons, not_or]
    exact ⟨fun same => other (by rw [textOpening, same]), outside⟩
  | closing name => exact fun member => outside (List.mem_cons_of_mem _ member)

/-- Where no text element begins, it is enough that elements nest. -/
theorem walk_of_textless {opened after : List Text} {edges : List Edge}
    (passed : passAll opened edges = some after) (textless : textOpening ∉ edges)
    (outside : textName ∉ opened) : walk opened edges = some after ∧ textName ∉ after := by
  induction edges generalizing opened with
  | nil =>
    cases passed
    exact ⟨rfl, outside⟩
  | cons edge rest ih =>
    obtain ⟨next, step, passed⟩ := Option.bind_eq_some_iff.mp passed
    rw [List.mem_cons, not_or] at textless
    have free : ¬ (opened.head? = some textName ∧ edge ≠ textClosing) :=
      fun both => outside (List.mem_of_mem_head? both.1)
    rw [walk_cons, passInText, if_neg free, step]
    exact ih passed textless.2 (not_mem_of_pass step (Ne.symm textless.1) outside)

theorem flatMap_scan_of_cut {row : List Text} (cut : ∀ raw ∈ row, Item.Cut raw) :
    row.flatMap scan = row.filterMap ofMarkup? := by
  induction row with
  | nil => rfl
  | cons raw row ih =>
    rw [List.forall_mem_cons] at cut
    rw [List.flatMap_cons, scan_of_cut cut.1, ih cut.2, List.filterMap_cons]
    cases ofMarkup? raw <;> rfl

theorem landmark_of_mem_markups {xml raw : Text} {marks : List Landmark}
    (silent : ∀ edge ∈ scan xml, Landmark.ofEdge edge ∉ marks) (other : .other ∉ marks)
    (member : raw ∈ Item.markups xml) : Landmark.ofMarkup raw ∉ marks := by
  rw [Landmark.ofMarkup]
  cases edge : ofMarkup? raw with
  | none => exact other
  | some edge =>
    refine silent _ ?_
    rw [scan_eq_markups, List.mem_filterMap]
    exact ⟨raw, member, ‹_›⟩

end Edge

/-- A row of markup that leads from some open elements to others and shows nothing. -/
structure Quiet (opened row after : List Text) : Prop where
  cut : ∀ raw ∈ row, Item.Cut raw
  silent : ∀ raw ∈ row, Landmark.ofMarkup raw ∉ [.paragraphStart, .paragraphEnd, .lineBreak]
  walked : Edge.walk opened (row.flatMap Edge.scan) = some after

namespace Quiet

variable {opened between after outer row row' : List Text}

/-- What is quiet on two stretches, one after the other, is quiet on both. -/
theorem append (first : Quiet opened row between) (second : Quiet between row' after) :
    Quiet opened (row ++ row') after := by
  refine ⟨?_, ?_, ?_⟩
  · exact List.forall_mem_append.mpr ⟨first.cut, second.cut⟩
  · exact List.forall_mem_append.mpr ⟨first.silent, second.silent⟩
  · rw [List.flatMap_append, Edge.walk_append_eq_some]
    exact ⟨between, first.walked, second.walked⟩

/-- What is quiet among some elements is quiet inside others. -/
theorem lift (quiet : Quiet opened row after) (outside : outer.head? ≠ some textName) :
    Quiet (opened ++ outer) row (after ++ outer) :=
  ⟨quiet.cut, quiet.silent, Edge.walk_append_right quiet.walked outside⟩

theorem of_edge {raw : Text} {edge : Edge} (cut : Item.Cut raw)
    (found : Edge.ofMarkup? raw = some edge)
    (silent : Landmark.ofEdge edge ∉ [.paragraphStart, .paragraphEnd, .lineBreak])
    (passed : Edge.passInText opened edge = some after) : Quiet opened [raw] after := by
  refine ⟨by simpa using cut, ?_, ?_⟩
  · rw [List.forall_mem_singleton, Landmark.ofMarkup, found]
    exact silent
  · rw [List.flatMap_singleton, Edge.scan_of_cut cut, found]
    simp [Edge.walk_cons, passed]

/-- Such markup shows nothing. -/
theorem text_readXml (cut : ∀ raw ∈ row, Item.Cut raw) (silent : ∀ raw ∈ row,
    Landmark.ofMarkup raw ∉ [.paragraphStart, .paragraphEnd, .lineBreak]) (p : PlainText) :
    (p.readXml row).text = p.text := by
  induction row generalizing p with
  | nil => rfl
  | cons raw rest ih =>
    rw [List.forall_mem_cons] at cut silent
    rw [PlainText.readXml_cons, ih cut.2 silent.2, cut.1.scan_eq, List.foldl_cons, List.foldl_nil]
    have quiet := silent.1
    rw [PlainText.step]
    cases role : Landmark.ofMarkup raw <;> rw [role] at quiet <;> first | rfl | simp at quiet

/-- It comes to nothing if it leads back to where it began. -/
theorem alike (quiet : Quiet opened row opened) (innermost : TextInnermost opened) :
    XmlAlike opened [] row opened := by
  refine ⟨rfl, quiet.walked, fun p place => ?_⟩
  have inside := place.readXml innermost quiet.walked
  refine ⟨(text_readXml quiet.cut quiet.silent p).symm, ?_⟩
  rw [PlainText.readXml_nil, Bool.eq_iff_iff]
  exact place.trans inside.symm

theorem properties {xml : Text} (properties : Properties xml) :
    Quiet [] (Item.markups xml) [] := by
  have cut : ∀ raw ∈ Item.markups xml, Item.Cut raw := fun raw member =>
    Item.cut_of_mem_scan (Item.mem_markups.mp member)
      (properties.whole raw (Item.mem_markups.mp member))
  refine ⟨cut, fun raw member => ?_, ?_⟩
  · have silent := Edge.landmark_of_mem_markups properties.silent (by simp) member
    simp only [List.mem_cons, List.not_mem_nil, or_false, not_or] at silent ⊢
    exact ⟨silent.1, silent.2.1, silent.2.2.2.2⟩
  · rw [Edge.flatMap_scan_of_cut cut, ← Edge.scan_eq_markups]
    refine (Edge.walk_of_textless properties.balanced (fun member => ?_) (by simp)).1
    exact properties.silent _ member (by decide)

/-- The markup of a run in front of its text leads into a text element. -/
theorem front {run : Run} (valid : run.Valid) : Quiet [] run.front [textName, runName] := by
  have opens : Quiet [] [runStartTag] [runName] :=
    of_edge Item.cut_runStartTag (by decide : _ = some ⟨runName, .opening⟩) (by decide) (by decide)
  have inner : Quiet [runName] (Item.markups run.properties) [runName] :=
    (properties valid.properties).lift (by decide)
  have text : Quiet [runName] [textStartTag] [textName, runName] :=
    of_edge Item.cut_textStartTag (by decide : _ = some Edge.textOpening) (by decide) (by decide)
  exact (opens.append inner).append text

theorem back : Quiet [textName, runName] Run.back [] := by
  have text : Quiet [textName, runName] [textEndTag] [runName] :=
    of_edge Item.cut_textEndTag (by decide : _ = some Edge.textClosing) (by decide) (by decide)
  have closes : Quiet [runName] [runEndTag] [] :=
    of_edge Item.cut_runEndTag (by decide : _ = some ⟨runName, .closing⟩) (by decide) (by decide)
  exact text.append closes

end Quiet

namespace Reading

open Piece

variable {Q : Text → Prop} {opened after outer row : List Text} {w s r : Reading}

theorem foldl_map_markup (r : Reading) (row : List Text) :
    (row.map .markup).foldl step r = row.foldl Reading.markup r := by
  rw [List.foldl_map]
  rfl

/-- Passing any markup that fits keeps everything in place. -/
theorem InPlace.foldl_markup (placed : InPlace Q r opened) (cut : ∀ raw ∈ row, Item.Cut raw)
    (walked : Edge.walk opened (row.flatMap Edge.scan) = some after) :
    InPlace Q (row.foldl Reading.markup r) after := by
  induction row generalizing r opened with
  | nil =>
    cases walked
    exact placed
  | cons raw row ih =>
    rw [List.forall_mem_cons] at cut
    rw [List.flatMap_cons, Edge.walk_append_eq_some] at walked
    obtain ⟨between, here, later⟩ := walked
    exact ih (placed.markup cut.1 here) cut.2 later

theorem InPlace.foldl_scan_plain (placed : InPlace Q r opened) (inside : opened.head? = some textName)
    {text : Text} (plain : '<' ∉ text) : (Item.scan text).foldl step r = r.characters [] text := by
  by_cases empty : text = []
  · subst empty
    rw [Item.scan_nil, List.foldl_nil, Reading.characters]
    split <;> rfl
  · have inText := placed.text.inText.mpr inside
    rw [Text.scan_of_plain empty plain, List.foldl_cons, List.foldl_nil, step, if_pos inText]

theorem faults_foldl_step {items : List Item} (faulty : r.faults ≠ []) :
    (items.foldl step r).faults ≠ [] := by
  intro clean
  have suffix := foldl_step_faults_suffix r items
  rw [clean, List.suffix_nil] at suffix
  exact faulty suffix

/-- Markup that fits keeps two readings side by side. -/
theorem Parallel.foldl_markup (parallel : Parallel opened w s) (cut : ∀ raw ∈ row, Item.Cut raw)
    (walked : Edge.walk opened (row.flatMap Edge.scan) = some after) :
    Parallel after (row.foldl Reading.markup w) (row.foldl Reading.markup s) := by
  induction row generalizing w s opened with
  | nil =>
    cases walked
    exact parallel
  | cons raw row ih =>
    rw [List.forall_mem_cons] at cut
    rw [List.flatMap_cons, Edge.walk_append_eq_some] at walked
    obtain ⟨between, here, later⟩ := walked
    exact ih (parallel.markup cut.1 here) cut.2 later

/-- Character data outside text elements is copied in both readings. -/
theorem Together.verbatim (together : Together opened w s) {raw : Text} (plain : '<' ∉ raw) :
    Together opened (w.push (.verbatim raw)) (s.push (.verbatim raw)) := by
  obtain ⟨⟨ids, split⟩, whole, cut⟩ := together
  exact ⟨⟨_, split.push (xmlAlike_plain plain _)⟩, whole.verbatim plain trivial,
    cut.verbatim plain trivial⟩

/-- What stands around paragraphs is read in the same way in both. -/
theorem Parallel.frame {items : List Item} (parallel : Parallel opened w s)
    (fits : ∀ item ∈ items, Fits Entity.Complete item)
    (walked : Edge.walk opened (items.filterMap Edge.ofItem?) = some after)
    (textless : Edge.textOpening ∉ items.filterMap Edge.ofItem?) (outside : textName ∉ opened) :
    Parallel after (items.foldl step w) (items.foldl step s) := by
  induction items generalizing w s opened with
  | nil =>
    cases walked
    exact parallel
  | cons item items ih =>
    rw [List.forall_mem_cons] at fits
    cases item with
    | text raw =>
      refine ih ?_ fits.2 walked textless outside
      rcases parallel with ⟨left, right⟩ | together
      · have kept {r : Reading} (faulty : r.faults ≠ []) : (r.step (.text raw)).faults ≠ [] :=
          @faults_foldl_step r [.text raw] faulty
        exact .inl ⟨kept left, kept right⟩
      · have copied {r : Reading} (placed : InPlace (fun _ => True) r opened) :
            r.step (.text raw) = r.push (.verbatim raw) := by
          have off : ¬ r.textStart.isSome = true := fun inText =>
            outside (List.mem_of_mem_head? (placed.text.inText.mp inText))
          rw [step, if_neg off]
        rw [copied together.whole, copied together.cut]
        exact .inr (together.verbatim fits.1.1)
    | markup raw =>
      have cut : Item.Cut raw := fits.1
      have split : Edge.scan raw ++ items.filterMap Edge.ofItem? =
          (Item.markup raw :: items).filterMap Edge.ofItem? := by
        rw [Edge.scan_of_cut cut, List.filterMap_cons, Edge.ofItem?]
        cases Edge.ofMarkup? raw <;> rfl
      rw [← split, Edge.walk_append_eq_some] at walked
      rw [← split, List.mem_append, not_or] at textless
      obtain ⟨between, here, later⟩ := walked
      have still := Edge.walk_of_textless (Edge.passAll_of_walk here) textless.1 outside
      exact ih (parallel.markup cut here) fits.2 later textless.2 still.2

/-- Quiet markup that leads back comes to nothing for a reading. -/
theorem idles_of_quiet (s : Reading) (quiet : Quiet opened row opened)
    (free : rowName ∉ opened ∧ cellName ∉ opened) : Idles s (row.foldl Reading.markup s) row := by
  refine idles_foldl_markup s quiet.cut (fun raw member => ?_) quiet.walked free
  have silent := quiet.silent raw member
  simp only [List.mem_cons, List.not_mem_nil, or_false, not_or] at silent ⊢
  exact ⟨silent.1, silent.2.1⟩

theorem extensible_markup {raw : Text} (other : Landmark.ofMarkup raw ∉ [.rowEnd, .paragraphEnd]) :
    Extensible (r.markup raw).pieces := by
  rw [markup_pieces]
  exact extensible_push other

/-- The second reading passes a piece of a text as the first one does. -/
theorem Midway.fragment {front text : Text} (mid : Midway opened w s front [])
    (inside : opened.head? = some textName) (plain : '<' ∉ text) (complete : Entity.Complete text) :
    ((∀ rest, (w.characters front.reverse (text ++ rest)).faults ≠ []) ∧
        ((Item.scan text).foldl step s).faults ≠ []) ∨
      ∃ (w' : Reading) (front' : Text), Midway opened w' ((Item.scan text).foldl step s) front' [] ∧
        ∀ rest, w.characters front.reverse (text ++ rest) = w'.characters front'.reverse rest := by
  rw [mid.cut.foldl_scan_plain inside plain]
  rcases mid.characters inside plain (by simpa using complete) with
    faulty | ⟨w', s', front', back', later, ends, passed⟩
  · refine .inl ⟨fun rest => ?_, ?_⟩
    · simpa using (faulty rest).1
    · simpa using (faulty []).2
  · have left (rest : Text) := (passed rest).1
    have right := (passed []).2
    simp only [List.append_nil, List.reverse_nil] at left right
    rw [right]
    exact .inr ⟨w', front' ++ back', later.flush ends, left⟩

/-- What the later runs of a paragraph add to its items. -/
def later (run : Run) : List Item :=
  (Run.back ++ run.front).map .markup ++ Item.scan run.fragment

/-- Where the first reading passes the rest of a text, the second one passes the rest of its runs. -/
theorem Midway.runs {runs : List Run} {front : Text}
    (mid : Midway (textName :: runName :: outer) w s front [])
    (outside : outer.head? ≠ some textName) (valid : ∀ run ∈ runs, run.Valid) :
    Parallel (textName :: runName :: outer)
      (w.characters front.reverse (runs.flatMap Run.fragment)) ((runs.flatMap later).foldl step s) := by
  induction runs generalizing w s front with
  | nil => exact .inr mid.finish
  | cons run runs ih =>
    rw [List.forall_mem_cons] at valid
    have quiet : Quiet [textName, runName] (Run.back ++ run.front) [textName, runName] :=
      Quiet.back.append (Quiet.front valid.1)
    have around := quiet.lift outside
    have innermost : TextInnermost (textName :: runName :: outer) :=
      Edge.walk_innermost mid.whole.laid.walked (by simp [TextInnermost])
    have skipped := mid.skip (idles_of_quiet s quiet (by decide)) (around.alike innermost)
      (mid.cut.foldl_markup around.cut around.walked)
    rw [List.flatMap_cons, List.flatMap_cons, List.foldl_append, later, List.foldl_append,
      foldl_map_markup]
    rcases skipped.fragment rfl valid.1.plain valid.1.complete with
      ⟨left, right⟩ | ⟨w', front', next, passed⟩
    · exact .inl ⟨left _, faults_foldl_step right⟩
    · rw [passed]
      exact ih next valid.2

/-- The first run of a paragraph begins in both readings; the second one passes its properties. -/
theorem Together.run {run : Run} (together : Together outer w s) (outside : outer.head? ≠ some textName)
    (valid : run.Valid) : Parallel (textName :: runName :: outer)
      ((w.markup runStartTag).markup textStartTag) (run.front.foldl Reading.markup s) := by
  have properties : Quiet [runName] (Item.markups run.properties) [runName] :=
    (Quiet.properties valid.properties).lift (by decide)
  have opens : Edge.walk outer (Edge.scan runStartTag) = some (runName :: outer) :=
    @Edge.walk_append_right [] [runName] outer _ (by decide +kernel) outside
  have text : Edge.walk (runName :: outer) (Edge.scan textStartTag) =
      some (textName :: runName :: outer) :=
    @Edge.walk_append_right [runName] [textName, runName] outer _ (by decide +kernel) outside
  rw [Run.front, List.cons_append, List.foldl_cons, List.foldl_append, List.foldl_cons, List.foldl_nil]
  refine Parallel.markup ?_ Item.cut_textStartTag text
  rcases together.markup Item.cut_runStartTag opens with ⟨left, right⟩ | inner
  · refine .inl ⟨left, ?_⟩
    rw [← foldl_map_markup]
    exact faults_foldl_step right
  · have around := properties.lift outside
    have innermost : TextInnermost (runName :: outer) :=
      Edge.walk_innermost inner.whole.laid.walked (by simp [TextInnermost])
    exact .inr (inner.skip (idles_of_quiet _ properties (by decide)) (around.alike innermost)
      (inner.cut.foldl_markup around.cut around.walked) (extensible_markup (by decide +kernel)))

end Reading

namespace Quiet

variable {outer : List Text}

/-- Runs without a text are quiet. -/
theorem runs {runs : List Run} (valid : ∀ run ∈ runs, run.Valid) :
    Quiet [] (runs.flatMap fun run => run.front ++ Run.back) [] := by
  induction runs with
  | nil => exact ⟨by simp, by simp, rfl⟩
  | cons run runs ih =>
    rw [List.forall_mem_cons] at valid
    exact ((front valid.1).append back).append (ih valid.2)

end Quiet

namespace Reading

open Piece

variable {outer row : List Text} {w s r : Reading}

/-- The items of some runs, begun with the first one. -/
theorem flatMap_items_cons (run : Run) (runs : List Run) : (run :: runs).flatMap Run.items =
    run.front.map .markup ++
      (Item.scan run.fragment ++ (runs.flatMap later ++ Run.back.map .markup)) := by
  induction runs generalizing run with
  | nil => simp [Run.items]
  | cons next runs ih =>
    rw [List.flatMap_cons, ih next, Run.items]
    simp [later]

/-- Where the first reading passes a text in one run, or no run for no text, the second one passes the
runs into which it is cut. -/
theorem Together.runs {runs : List Run} {text : Text} (together : Together outer w s)
    (outside : outer.head? ≠ some textName) (extensible : Extensible w.pieces)
    (valid : ∀ run ∈ runs, run.Valid) (same : runs.flatMap Run.fragment = text) :
    Parallel outer
      (((if text = [] then [] else [⟨[], text⟩] : List Run).flatMap Run.items).foldl step w)
      ((runs.flatMap Run.items).foldl step s) := by
  have innermost : TextInnermost outer :=
    Edge.walk_innermost together.whole.laid.walked (by simp [TextInnermost])
  -- Without text the whole reading sees no run at all, and the other one only markup that comes to
  -- nothing.
  by_cases empty : text = []
  · subst empty
    rw [List.flatMap_eq_nil_iff] at same
    have bare : runs.flatMap Run.items =
        (runs.flatMap fun run => run.front ++ Run.back).map .markup := by
      rw [List.map_flatMap]
      refine List.flatMap_congr fun run member => ?_
      rw [Run.items, same run member, Item.scan_nil, List.append_nil, List.map_append]
    have quiet := Quiet.runs valid
    have around := quiet.lift outside
    rw [if_pos rfl, bare, foldl_map_markup]
    exact .inr (together.skip (idles_of_quiet s quiet (by simp)) (around.alike innermost)
      (together.cut.foldl_markup around.cut around.walked) extensible)
  · obtain _ | ⟨run, runs⟩ := runs
    · exact absurd same.symm empty
    rw [List.forall_mem_cons] at valid
    rw [List.flatMap_cons] at same
    have single : ([⟨[], text⟩] : List Run).flatMap Run.items =
        [runStartTag, textStartTag].map .markup ++ (Item.scan text ++ Run.back.map .markup) := by
      have none : Item.markups [] = [] := by simp [Item.markups]
      simp [Run.items, Run.front, none]
    rw [if_neg empty, single, flatMap_items_cons, List.foldl_append, List.foldl_append,
      List.foldl_append, List.foldl_append, List.foldl_append, foldl_map_markup, foldl_map_markup,
      foldl_map_markup, foldl_map_markup]
    have closes := (@Quiet.lift _ _ outer _ Quiet.back outside).walked
    refine Parallel.foldl_markup ?_ Quiet.back.cut closes
    rcases together.run outside valid.1 with ⟨left, right⟩ | inner
    · exact .inl ⟨faults_foldl_step left, faults_foldl_step (faults_foldl_step right)⟩
    · have plain : '<' ∉ text := by
        rw [← same, List.mem_append, not_or]
        exact ⟨valid.1.plain, Run.plain_flatMap valid.2⟩
      rw [List.foldl_cons, List.foldl_cons, List.foldl_nil, inner.whole.foldl_scan_plain rfl plain, ← same]
      have mid := inner.midway (extensible_markup (by decide +kernel))
      rcases mid.fragment rfl valid.1.plain valid.1.complete with
        ⟨left, right⟩ | ⟨w', front, next, passed⟩
      · exact .inl ⟨left _, faults_foldl_step right⟩
      · have start := passed (runs.flatMap Run.fragment)
        rw [List.reverse_nil] at start
        rw [start]
        exact next.runs outside valid.2

theorem extensible_foldl_markup (extensible : Extensible r.pieces)
    (other : ∀ raw ∈ row, Landmark.ofMarkup raw ∉ [.rowEnd, .paragraphEnd]) :
    Extensible (row.foldl Reading.markup r).pieces := by
  induction row generalizing r with
  | nil => exact extensible
  | cons raw row ih =>
    rw [List.forall_mem_cons] at other
    exact ih (extensible_markup other.1) other.2

end Reading

namespace Paragraph.Valid

variable {paragraph : Paragraph} {outer : List Text} {w s : Reading}

/-- A paragraph opens its element. -/
theorem walk_opening (valid : paragraph.Valid) (outside : outer.head? ≠ some textName) :
    Edge.walk outer (Edge.scan paragraph.opening) = some (paragraphName :: outer) := by
  have free : ¬ (outer.head? = some textName ∧ (⟨paragraphName, .opening⟩ : Edge) ≠ Edge.textClosing) :=
    fun both => outside both.1
  rw [Edge.scan_of_cut valid.opening, valid.edge, Option.toList_some, Edge.walk_cons, Edge.passInText,
    if_neg free]
  rfl

theorem properties_quiet (valid : paragraph.Valid) : Quiet (paragraphName :: outer)
    (Item.markups paragraph.properties) (paragraphName :: outer) :=
  @Quiet.lift [] [] (paragraphName :: outer) _ (Quiet.properties valid.properties)
    (by simp [paragraphName, textName])

/-- A paragraph is read side by side with the one that has its text in one run. -/
theorem parallel (valid : paragraph.Valid) (outside : outer.head? ≠ some textName)
    (before : Reading.Parallel outer w s) : Reading.Parallel outer
      (paragraph.joined.items.foldl Reading.step w) (paragraph.items.foldl Reading.step s) := by
  have closes : Edge.walk (paragraphName :: outer) (Edge.scan paragraphEndTag) = some outer :=
    @Edge.walk_append_right [paragraphName] [] outer _ (by decide +kernel) outside
  have same : paragraph.joined.head = paragraph.head := rfl
  rw [Paragraph.items, Paragraph.items, same, List.foldl_append, List.foldl_append, List.foldl_append,
    List.foldl_append, Reading.foldl_map_markup, Reading.foldl_map_markup]
  refine Reading.Parallel.markup ?_ Item.cut_paragraphEndTag closes
  have opened := before.markup valid.opening (valid.walk_opening outside)
  have quiet := @properties_quiet _ outer valid
  rw [Paragraph.head, List.foldl_cons, List.foldl_cons]
  have head := opened.foldl_markup quiet.cut quiet.walked
  rcases head with ⟨left, right⟩ | together
  · exact .inl ⟨Reading.faults_foldl_step left, Reading.faults_foldl_step right⟩
  · refine together.runs (by simp [paragraphName, textName]) ?_ valid.runs rfl
    refine Reading.extensible_foldl_markup (Reading.extensible_markup ?_) fun raw member => ?_
    · rw [Landmark.ofMarkup, valid.edge]
      decide
    · have silent := quiet.silent raw member
      have rowless := @Edge.landmark_of_mem_markups _ _ [.rowEnd]
        (fun edge inside => by simpa using valid.rowless edge inside) (by decide) member
      simp only [List.mem_cons, List.not_mem_nil, or_false, not_or] at silent rowless ⊢
      exact ⟨rowless, silent.2.1⟩

end Paragraph.Valid

theorem Run.complete_flatMap {runs : List Run} (valid : ∀ run ∈ runs, run.Valid) :
    Entity.Complete (runs.flatMap Run.fragment) := by
  induction runs with
  | nil => exact Entity.complete_nil
  | cons run runs ih =>
    rw [List.forall_mem_cons] at valid
    rw [List.flatMap_cons]
    exact valid.1.complete.append (ih valid.2)

theorem Properties.nil : Properties [] := by
  have none : Edge.scan [] = [] := Edge.scan_of_plain (by simp)
  exact ⟨Text.whole_of_plain (by simp), by simp [Item.markups], by rw [none]; rfl, by simp [none]⟩

namespace Paragraph

theorem Valid.joined {paragraph : Paragraph} (valid : paragraph.Valid) : paragraph.joined.Valid := by
  have whole : Run.Valid ⟨[], paragraph.text⟩ :=
    ⟨Properties.nil, Run.plain_flatMap valid.runs, Run.complete_flatMap valid.runs⟩
  refine ⟨valid.opening, valid.edge, valid.properties, valid.rowless, fun run member => ?_⟩
  rw [Paragraph.joined] at member
  dsimp only at member
  split at member
  · cases member
  · cases List.mem_singleton.mp member
    exact whole

end Paragraph

namespace Document

variable {document : Document}

theorem frames_joined (document : Document) : document.joined.frames = document.frames := by
  simp [frames, joined]

theorem Valid.joined (valid : document.Valid) : document.joined.Valid := by
  refine ⟨?_, ?_, fun entry member => ?_⟩
  · rw [frames_joined]
    exact valid.frames
  · rw [frames_joined]
    exact valid.nested
  · obtain ⟨other, known, rfl⟩ := List.mem_map.mp member
    exact (valid.paragraphs other known).joined

end Document

theorem Frame.fits {xml : Text} (frame : Frame xml) :
    ∀ item ∈ Item.scan xml, Reading.Fits Entity.Complete item := by
  intro item member
  cases item with
  | markup raw => exact Item.cut_of_mem_scan member (frame.whole raw member)
  | text raw => exact ⟨(Item.plain_of_mem_scan member).2, frame.referenced raw member⟩

theorem Item.filterMap_map_markup {row : List Text} (cut : ∀ raw ∈ row, Item.Cut raw) :
    (row.map .markup).filterMap Edge.ofItem? = row.flatMap Edge.scan := by
  rw [Edge.flatMap_scan_of_cut cut, List.filterMap_map]
  rfl

theorem Reading.fits_map_markup {row : List Text} (cut : ∀ raw ∈ row, Item.Cut raw) :
    ∀ item ∈ row.map Item.markup, Reading.Fits Entity.Complete item := by
  rintro _ member
  obtain ⟨raw, inside, rfl⟩ := List.mem_map.mp member
  exact cut raw inside

namespace Run.Valid

variable {run : Run}

/-- The items of a paragraph fit a reading. -/
theorem fits (valid : run.Valid) : ∀ item ∈ run.items, Reading.Fits Entity.Complete item := by
  rw [Run.items, List.forall_mem_append, List.forall_mem_append]
  refine ⟨⟨Reading.fits_map_markup (Quiet.front valid).cut, fun item member => ?_⟩,
    Reading.fits_map_markup Quiet.back.cut⟩
  by_cases empty : run.fragment = []
  · rw [empty, Item.scan_nil] at member
    cases member
  · rw [Text.scan_of_plain empty valid.plain, List.mem_singleton] at member
    subst member
    exact ⟨valid.plain, valid.complete⟩

theorem walk_items (valid : run.Valid) :
    Edge.walk [] (run.items.filterMap Edge.ofItem?) = some [] := by
  have quiet := (Quiet.front valid).append Quiet.back
  have none : (Item.scan run.fragment).filterMap Edge.ofItem? = [] := Edge.scan_of_plain valid.plain
  rw [Run.items, List.filterMap_append, List.filterMap_append, none, List.append_nil,
    Item.filterMap_map_markup (Quiet.front valid).cut, Item.filterMap_map_markup Quiet.back.cut,
    ← List.flatMap_append]
  exact quiet.walked

end Run.Valid

namespace Paragraph.Valid

variable {paragraph : Paragraph} {outer : List Text}

theorem fits (valid : paragraph.Valid) :
    ∀ item ∈ paragraph.items, Reading.Fits Entity.Complete item := by
  rw [Paragraph.items, List.forall_mem_append, List.forall_mem_append]
  refine ⟨⟨Reading.fits_map_markup ?_, fun item member => ?_⟩, ?_⟩
  · exact List.forall_mem_cons.mpr ⟨valid.opening, (Quiet.properties valid.properties).cut⟩
  · obtain ⟨run, known, inside⟩ := List.mem_flatMap.mp member
    exact (valid.runs run known).fits item inside
  · rw [List.forall_mem_singleton]
    exact Item.cut_paragraphEndTag

theorem walk_items (valid : paragraph.Valid) (outside : outer.head? ≠ some textName) :
    Edge.walk outer (paragraph.items.filterMap Edge.ofItem?) = some outer := by
  have cut : ∀ raw ∈ paragraph.head, Item.Cut raw :=
    List.forall_mem_cons.mpr ⟨valid.opening, (Quiet.properties valid.properties).cut⟩
  have inner (runs : List Run) (each : ∀ run ∈ runs, run.Valid) :
      Edge.walk [] ((runs.flatMap Run.items).filterMap Edge.ofItem?) = some [] := by
    induction runs with
    | nil => rfl
    | cons run runs ih =>
      rw [List.forall_mem_cons] at each
      rw [List.flatMap_cons, List.filterMap_append, Edge.walk_append_eq_some]
      exact ⟨[], each.1.walk_items, ih each.2⟩
  have closes : Edge.walk (paragraphName :: outer)
      ([Item.markup paragraphEndTag].filterMap Edge.ofItem?) = some outer :=
    @Edge.walk_append_right [paragraphName] [] outer _ (by decide +kernel) outside
  have runs := @Edge.walk_append_right [] [] (paragraphName :: outer) _ (inner _ valid.runs)
    (by simp [paragraphName, textName])
  rw [Paragraph.items, List.filterMap_append, List.filterMap_append, Item.filterMap_map_markup cut,
    Paragraph.head, List.flatMap_cons, List.append_assoc, List.append_assoc, Edge.walk_append_eq_some]
  refine ⟨paragraphName :: outer, valid.walk_opening outside, Edge.walk_append_eq_some.mpr ?_⟩
  refine ⟨paragraphName :: outer, valid.properties_quiet.walked, Edge.walk_append_eq_some.mpr ?_⟩
  exact ⟨paragraphName :: outer, runs, closes⟩

end Paragraph.Valid

namespace Document

variable {document : Document}

/-- The items of a document fit a reading. -/
theorem Valid.fits (valid : document.Valid) :
    ∀ item ∈ document.items, Reading.Fits Entity.Complete item := by
  have frames := valid.frames
  rw [Document.frames, List.forall_mem_cons] at frames
  rw [Document.items, List.forall_mem_append]
  refine ⟨frames.1.fits, fun item member => ?_⟩
  obtain ⟨entry, known, inside⟩ := List.mem_flatMap.mp member
  rcases List.mem_append.mp inside with own | behind
  · exact (valid.paragraphs entry known).fits item own
  · exact (frames.2 entry.2 (List.mem_map_of_mem known)).fits item behind

/-- The elements that are open in front of some paragraphs, with what stands between them. None of
them is a text element, and behind the last one all are closed. -/
inductive Around : List Text → List (Paragraph × Text) → Prop
  | nil : Around [] []
  | cons {opened between : List Text} {paragraph : Paragraph} {frame : Text}
      {rest : List (Paragraph × Text)} : paragraph.Valid → Frame frame → textName ∉ opened →
      Edge.walk opened (Edge.scan frame) = some between → Around between rest →
      Around opened ((paragraph, frame) :: rest)

/-- Paragraphs stand among the elements that the frames between them leave open. -/
theorem around_of_nested {body : List (Paragraph × Text)} (each : ∀ entry ∈ body, entry.1.Valid)
    (frames : ∀ entry ∈ body, Frame entry.2) {opened : List Text} (outside : textName ∉ opened)
    (nested : Edge.passAll opened ((body.map Prod.snd).flatMap Edge.scan) = some []) :
    Around opened body := by
  induction body generalizing opened with
  | nil =>
    cases nested
    exact .nil
  | cons entry body ih =>
    rw [List.forall_mem_cons] at each frames
    rw [List.map_cons, List.flatMap_cons, Edge.passAll_append, Option.bind_eq_some_iff] at nested
    obtain ⟨between, here, later⟩ := nested
    obtain ⟨walked, still⟩ := Edge.walk_of_textless here frames.1.textless outside
    exact .cons each.1 frames.1 outside walked (ih each.2 frames.2 still later)

theorem Valid.exists_around (valid : document.Valid) : Frame document.front ∧ ∃ opened,
    Edge.walk [] (Edge.scan document.front) = some opened ∧ Around opened document.body := by
  have frames := valid.frames
  have nested := valid.nested
  rw [Document.frames, List.forall_mem_cons] at frames
  rw [Document.frames, List.flatMap_cons, Edge.passAll_append, Option.bind_eq_some_iff] at nested
  obtain ⟨opened, here, later⟩ := nested
  obtain ⟨walked, still⟩ := Edge.walk_of_textless here frames.1.textless (by simp)
  refine ⟨frames.1, opened, walked, around_of_nested valid.paragraphs (fun entry known => ?_) still
    later⟩
  exact frames.2 entry.2 (List.mem_map_of_mem known)

/-- The items of a document are walked through to its end. -/
theorem Around.walk_items {opened : List Text} {body : List (Paragraph × Text)}
    (around : Around opened body) : Edge.walk opened ((body.flatMap fun entry =>
      entry.1.items ++ Item.scan entry.2).filterMap Edge.ofItem?) = some [] := by
  induction around with
  | nil => rfl
  | cons valid _ outside walked _ ih =>
    rw [List.flatMap_cons, List.filterMap_append, List.filterMap_append, List.append_assoc,
      Edge.walk_append_eq_some]
    refine ⟨_, valid.walk_items fun first => outside (List.mem_of_mem_head? first), ?_⟩
    exact Edge.walk_append_eq_some.mpr ⟨_, walked, ih⟩

/-- The elements of a document nest, as those around its paragraphs do. -/
theorem Valid.walk_items (valid : document.Valid) :
    Edge.walk [] (document.items.filterMap Edge.ofItem?) = some [] := by
  obtain ⟨_, opened, walked, around⟩ := valid.exists_around
  rw [Document.items, List.filterMap_append, Edge.walk_append_eq_some]
  exact ⟨opened, walked, around.walk_items⟩

/-- Taking a document to pieces leaves everything in its place. -/
theorem Valid.inPlace (valid : document.Valid) :
    (Layout.ofPart document.source).InPlace Entity.Complete := by
  have fits := valid.fits
  have walked := valid.walk_items
  rw [← valid.scan_source] at fits walked
  have placed := ((Reading.inPlace_start _).foldl_step Entity.divides_complete fits walked).abandon
  exact ⟨placed.laid, placed.spans.closed⟩

/-- The readings of a document and of its joined form stay side by side to the end. -/
theorem Around.parallel {opened : List Text} {body : List (Paragraph × Text)}
    (around : Around opened body) {w s : Reading} (before : Reading.Parallel opened w s) :
    Reading.Parallel []
      ((body.flatMap fun entry => entry.1.joined.items ++ Item.scan entry.2).foldl Reading.step w)
      ((body.flatMap fun entry => entry.1.items ++ Item.scan entry.2).foldl Reading.step s) := by
  induction around generalizing w s with
  | nil => exact before
  | cons valid frame outside walked _ ih =>
    rw [List.flatMap_cons, List.flatMap_cons, List.foldl_append, List.foldl_append,
      List.foldl_append, List.foldl_append]
    have paragraph := valid.parallel (fun first => outside (List.mem_of_mem_head? first)) before
    exact ih (paragraph.frame frame.fits walked frame.textless outside)

/-- A document is read side by side with the one that has every text in one run. -/
theorem Valid.parallel (valid : document.Valid) : Reading.Parallel []
    ((Item.scan document.joined.source).foldl Reading.step {})
    ((Item.scan document.source).foldl Reading.step {}) := by
  obtain ⟨front, opened, walked, around⟩ := valid.exists_around
  have start : Reading.Parallel [] {} {} := .inr Reading.together_start
  rw [valid.joined.scan_source, valid.scan_source, Document.items, Document.items, List.foldl_append,
    List.foldl_append, Document.joined, List.flatMap_map]
  exact around.parallel (start.frame front.fits walked front.textless (by simp))

end Document

end WordMerge
