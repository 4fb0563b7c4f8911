import WordMerge.Proofs.Template.Braces

namespace WordMerge

/-- The character data of text elements among some items, with its references resolved. -/
def Item.shown (inside : Bool) : List Item → Text
  | [] => []
  | .markup raw :: rest => shown (insideAfter inside (.markup raw)) rest
  | .text raw :: rest => (if inside then Entity.unescape raw else []) ++ shown inside rest

namespace Edge

/-- The number of elements of a part with the given name. -/
def elements (name : Text) (source : Text) : Nat :=
  (scan source).countP fun edge => edge.name = name ∧ edge.side ≠ .closing

/-- Every element begins with a start tag or is an empty tag. -/
theorem elements_eq (name source : Text) : elements name source =
    (scan source).count ⟨name, .opening⟩ + (scan source).count ⟨name, .empty⟩ := by
  unfold elements
  generalize scan source = edges
  induction edges with
  | nil => rfl
  | cons edge rest ih =>
    obtain ⟨other, side⟩ := edge
    rw [List.countP_cons, List.count_cons, List.count_cons, ih]
    by_cases same : other = name
    · subst same
      cases side <;> simp <;> omega
    · simp [same]

/-- Every element that some edges open is closed by them, or still open behind them. -/
theorem count_balance {opened after : List Text} {edges : List Edge}
    (passed : passAll opened edges = some after) (name : Text) :
    opened.count name + edges.count ⟨name, .opening⟩ =
      after.count name + edges.count ⟨name, .closing⟩ := by
  induction edges generalizing opened with
  | nil =>
    cases passed
    simp
  | cons edge rest ih =>
    obtain ⟨next, step, later⟩ := Option.bind_eq_some_iff.mp passed
    have balance := ih later
    rw [List.count_cons, List.count_cons]
    cases pass_eq_some.mp step with
    | empty other => simpa using balance
    | opening other =>
      rw [List.count_cons] at balance
      by_cases same : other = name
      · subst same
        simp at balance ⊢
        omega
      · simpa [same] using balance
    | closing other =>
      rw [List.count_cons]
      by_cases same : other = name
      · subst same
        simp at balance ⊢
        omega
      · simpa [same] using balance

end Edge

/-- What an edge adds to the text of a part: a line feed for an empty tag of a line break and for
the end tag of a paragraph. -/
def Edge.feed (edge : Edge) : Text :=
  if edge = ⟨breakName, .empty⟩ ∨ edge = ⟨paragraphName, .closing⟩ then ['\n'] else []

theorem Edge.count_feed (edge : Edge) : edge.feed.count '\n' =
    (if edge = ⟨paragraphName, .closing⟩ then 1 else 0) +
      (if edge = ⟨breakName, .empty⟩ then 1 else 0) := by
  by_cases ends : edge = ⟨paragraphName, .closing⟩
  · subst ends
    decide
  · by_cases breaks : edge = ⟨breakName, .empty⟩ <;> simp [feed, ends, breaks]

namespace PlainText

/-- What an edge does to an extraction. -/
def pass (p : PlainText) (edge : Edge) : PlainText :=
  if edge = Edge.textOpening then { p with inText := true }
  else if edge = Edge.textClosing then { p with inText := false }
  else if edge = ⟨breakName, .empty⟩ ∨ edge = ⟨paragraphName, .closing⟩ then p.add ['\n']
  else p

theorem step_markup (p : PlainText) (raw : Text) :
    p.step (.markup raw) = (Edge.ofMarkup? raw).elim p p.pass := by
  simp only [step, Landmark.ofMarkup]
  cases Edge.ofMarkup? raw with
  | none => rfl
  | some edge =>
    simp only [Option.elim_some]
    cases found : Landmark.ofEdge edge with
    | other =>
      have different (role : Landmark) {own : Edge} (stands : role.edge? = some own) :
          edge ≠ own := by
        intro same
        rw [(Landmark.ofEdge_eq_iff stands).mpr same] at found
        subst found
        cases stands
      have text := different .textStart rfl
      have textEnd := different .textEnd rfl
      have lineBreak := different .lineBreak rfl
      have paragraphEnd := different .paragraphEnd rfl
      simp [pass, text, textEnd, lineBreak, paragraphEnd]
    | _ =>
      cases (Landmark.ofEdge_eq_iff rfl).mp found
      rfl

theorem text_pass (p : PlainText) (edge : Edge) : (p.pass edge).text = p.text ++ edge.feed := by
  by_cases feeds : edge = ⟨breakName, .empty⟩ ∨ edge = ⟨paragraphName, .closing⟩
  · have other : edge ≠ Edge.textOpening ∧ edge ≠ Edge.textClosing := by
      rcases feeds with rfl | rfl <;> decide
    simp [pass, Edge.feed, feeds, other]
  · have silent : (p.pass edge).text = p.text := by
      unfold pass
      rw [if_neg feeds]
      split
      · rfl
      · split <;> rfl
    rw [silent, Edge.feed, if_neg feeds, List.append_nil]

theorem inText_step_eq (p : PlainText) (item : Item) :
    (p.step item).inText = Item.insideAfter p.inText item :=
  Item.inText_foldl_step [item] p

/-- The line feeds of an extraction are those of paragraph ends, of line breaks and of character
data. -/
theorem count_foldl_step (items : List Item) (p : PlainText) :
    (items.foldl step p).text.count '\n' = p.text.count '\n' +
      (items.filterMap Edge.ofItem?).count ⟨paragraphName, .closing⟩ +
      (items.filterMap Edge.ofItem?).count ⟨breakName, .empty⟩ +
      (Item.shown p.inText items).count '\n' := by
  induction items generalizing p with
  | nil => simp [Item.shown]
  | cons item rest ih =>
    rw [List.foldl_cons, ih, inText_step_eq]
    cases item with
    | text raw =>
      have here : (p.step (.text raw)).text.count '\n' = p.text.count '\n' +
          (if p.inText then Entity.unescape raw else []).count '\n' := by
        rw [step]
        split
        · simp [PlainText.text]
        · simp
      rw [here, Item.shown, Item.insideAfter, List.count_append, List.filterMap_cons, Edge.ofItem?]
      dsimp only
      omega
    | markup raw =>
      rw [step_markup, Item.shown, List.filterMap_cons, Edge.ofItem?]
      cases Edge.ofMarkup? raw with
      | none => rfl
      | some edge =>
        rw [Option.elim_some, text_pass, List.count_append, Edge.count_feed, List.count_cons,
          List.count_cons]
        simp only [beq_iff_eq]
        omega

/-- What an extraction finds is written behind what it found before. -/
theorem text_foldl_step (items : List Item) (p : PlainText) :
    (items.foldl step p).text = p.text ++ (items.foldl step ⟨[], p.inText⟩).text := by
  have single (p : PlainText) (item : Item) :
      (p.step item).text = p.text ++ (step ⟨[], p.inText⟩ item).text := by
    cases item with
    | markup raw =>
      rw [step_markup, step_markup]
      cases Edge.ofMarkup? raw with
      | none => exact (List.append_nil _).symm
      | some edge =>
        rw [Option.elim_some, Option.elim_some, text_pass, text_pass]
        rfl
    | text raw =>
      simp only [step]
      split
      · simp [PlainText.text]
      · exact (List.append_nil _).symm
  induction items generalizing p with
  | nil => exact (List.append_nil _).symm
  | cons item rest ih =>
    rw [List.foldl_cons, List.foldl_cons, ih, single, ih (step _ item), inText_step_eq,
      inText_step_eq, List.append_assoc]

end PlainText

/-- An element without content in its two spellings: an empty tag, or a start tag and an end tag. -/
structure EmptyElement (name short start stop : Text) : Prop where
  short : Item.Cut short ∧ Edge.ofMarkup? short = some ⟨name, .empty⟩
  start : Item.Cut start ∧ Edge.ofMarkup? start = some ⟨name, .opening⟩
  stop : Item.Cut stop ∧ Edge.ofMarkup? stop = some ⟨name, .closing⟩

namespace EmptyElement

variable {name short start stop front back : Text}

theorem step_short (element : EmptyElement name short start stop) (p : PlainText) :
    p.step (.markup short) = if name = breakName then p.add ['\n'] else p := by
  rw [PlainText.step_markup, element.short.2, Option.elim_some]
  simp [PlainText.pass, Edge.textOpening, Edge.textClosing]

/-- The two tags of a text element without content end the text element around them, so they are the
same as nothing only where there is none. -/
theorem step_tags (element : EmptyElement name short start stop) {p : PlainText}
    (outside : name = textName → p.inText = false) :
    (p.step (.markup start)).step (.markup stop) =
      if name = paragraphName then p.add ['\n'] else p := by
  rw [PlainText.step_markup, PlainText.step_markup, element.start.2, element.stop.2,
    Option.elim_some, Option.elim_some]
  by_cases text : name = textName
  · have other : textName ≠ paragraphName := by decide
    obtain ⟨pieces, inText⟩ := p
    have known : inText = false := outside text
    simp [PlainText.pass, Edge.textOpening, Edge.textClosing, text, other, known]
  · simp [PlainText.pass, Edge.textOpening, Edge.textClosing, text]

theorem scan_short (element : EmptyElement name short start stop) (whole : Text.Whole front) :
    Item.scan (front ++ (short ++ back)) = Item.scan front ++ .markup short :: Item.scan back := by
  have border : ∀ c ∈ (short ++ back).head?, c = '<' := by
    simp [List.head?_append, element.short.1.opened]
  rw [Item.scan_append_of_border whole border, Item.scan_cut element.short.1]

theorem scan_tags (element : EmptyElement name short start stop) (whole : Text.Whole front) :
    Item.scan (front ++ (start ++ (stop ++ back))) =
      Item.scan front ++ .markup start :: .markup stop :: Item.scan back := by
  have border : ∀ c ∈ (start ++ (stop ++ back)).head?, c = '<' := by
    simp [List.head?_append, element.start.1.opened]
  rw [Item.scan_append_of_border whole border, Item.scan_cut element.start.1,
    Item.scan_cut element.stop.1]

/-- The two spellings of an element without content give the same text but for a line feed. -/
theorem exists_rest (element : EmptyElement name short start stop) (whole : Text.Whole front)
    {opened : List Text} (passed : Edge.passAll [] (Edge.scan front) = some opened)
    (outside : name = textName → textName ∉ opened) (back : Text) :
    ∃ rest,
      PlainText.ofPart (front ++ (short ++ back)) =
        PlainText.ofPart front ++ (if name = breakName then '\n' :: rest else rest) ∧
      PlainText.ofPart (front ++ (start ++ (stop ++ back))) =
        PlainText.ofPart front ++ (if name = paragraphName then '\n' :: rest else rest) := by
  let before := (Item.scan front).foldl PlainText.step {}
  have known : name = textName → before.inText = false := fun text => by
    by_contra inside
    have last : (Item.scan front).foldl Item.insideAfter false = true := by
      rw [← Item.inText_foldl_step _ {}]
      exact eq_true_of_ne_false inside
    exact outside text (Item.mem_of_inside passed (fun inside => absurd inside Bool.false_ne_true) last)
  refine ⟨((Item.scan back).foldl PlainText.step ⟨[], before.inText⟩).text, ?_, ?_⟩
  · rw [PlainText.ofPart, element.scan_short whole, List.foldl_append, List.foldl_cons,
      element.step_short, PlainText.text_foldl_step]
    split
    · simp [PlainText.ofPart, before]
    · rfl
  · rw [PlainText.ofPart, element.scan_tags whole, List.foldl_append, List.foldl_cons,
      List.foldl_cons, element.step_tags known, PlainText.text_foldl_step]
    split
    · simp [PlainText.ofPart, before]
    · rfl

end EmptyElement

/-- What stands in front of something in a well-formed part leaves some elements open. -/
theorem WellFormed.exists_opened {front back : Text} (formed : WellFormed (front ++ back))
    (whole : Text.Whole front) : ∃ opened, Edge.passAll [] (Edge.scan front) = some opened := by
  have nested := formed.nested
  rw [Edge.scan_append whole, Edge.passAll_append] at nested
  obtain ⟨opened, passed, _⟩ := Option.bind_eq_some_iff.mp nested
  exact ⟨opened, passed⟩

/-- The line feeds in the text of a part are those of its paragraphs, of its line breaks and of the
character data in its text elements, except that paragraphs given by an empty tag and line breaks
given by a start tag and an end tag have none. So an element without content, where it is no text
element inside another one, gives the same text in both spellings, but for the line feed of a
paragraph or a line break. -/
theorem PlainText.ofPart_spellings {source : Text} (formed : WellFormed source) :
    (ofPart source).count '\n' + (Edge.scan source).count ⟨paragraphName, .empty⟩ +
          (Edge.scan source).count ⟨breakName, .opening⟩ =
        Edge.elements paragraphName source + Edge.elements breakName source +
          (Item.shown false (Item.scan source)).count '\n' ∧
      ∀ name short start stop front back, EmptyElement name short start stop →
        Text.Whole front →
        source = front ++ (short ++ back) ∨ source = front ++ (start ++ (stop ++ back)) →
        (∀ opened, Edge.passAll [] (Edge.scan front) = some opened →
          name = textName → textName ∉ opened) →
        ∃ rest,
          ofPart (front ++ (short ++ back)) =
            ofPart front ++ (if name = breakName then '\n' :: rest else rest) ∧
          ofPart (front ++ (start ++ (stop ++ back))) =
            ofPart front ++ (if name = paragraphName then '\n' :: rest else rest) := by
  constructor
  · have count : (ofPart source).count '\n' =
        (Edge.scan source).count ⟨paragraphName, .closing⟩ +
          (Edge.scan source).count ⟨breakName, .empty⟩ +
          (Item.shown false (Item.scan source)).count '\n' := by
      rw [ofPart, count_foldl_step]
      simp [PlainText.text, Edge.scan]
    have balance := Edge.count_balance formed.nested paragraphName
    rw [List.count_nil] at balance
    rw [Edge.elements_eq, Edge.elements_eq, count]
    omega
  · intro name short start stop front back element whole spelled outside
    have opens : ∃ opened, Edge.passAll [] (Edge.scan front) = some opened := by
      rcases spelled with rfl | rfl
      · exact formed.exists_opened whole
      · exact formed.exists_opened whole
    obtain ⟨opened, passed⟩ := opens
    exact element.exists_rest whole passed (outside opened passed) back

/-- A paragraph with a line break and a run without content. -/
def brokenLine : Text :=
  "<w:p><w:r><w:t>a</w:t><w:br/></w:r><w:r/></w:p>".toList

theorem PlainText.ofPart_spellings_brokenLine :
    (WellFormed brokenLine ∧ (ofPart brokenLine).count '\n' = 2) ∧
      ofPart brokenLine =
        ofPart "<w:p><w:r><w:t>a</w:t><w:br/></w:r><w:r></w:r></w:p>".toList := by
  have formed : WellFormed brokenLine :=
    ⟨Text.whole_iff.mpr (by decide +kernel), by decide +kernel⟩
  obtain ⟨counted, respelled⟩ := ofPart_spellings formed
  have parts : (Edge.scan brokenLine).count ⟨paragraphName, .empty⟩ = 0 ∧
      (Edge.scan brokenLine).count ⟨breakName, .opening⟩ = 0 ∧
      Edge.elements paragraphName brokenLine = 1 ∧ Edge.elements breakName brokenLine = 1 ∧
      (Item.shown false (Item.scan brokenLine)).count '\n' = 0 := by
    unfold brokenLine
    -- spelled out, since a long string literal is slow to evaluate
    rewrite [String.toList_ofList]
    decide +kernel
  have element : EmptyElement "w:r".toList "<w:r/>".toList "<w:r>".toList "</w:r>".toList := by
    refine ⟨⟨Item.cut_of_scan ?_ ?_, ?_⟩, ⟨Item.cut_of_scan ?_ ?_, ?_⟩,
      ⟨Item.cut_of_scan ?_ ?_, ?_⟩⟩ <;> decide +kernel
  have other : "w:r".toList ≠ textName := by decide
  obtain ⟨rest, short, tags⟩ := respelled _ _ _ _
    "<w:p><w:r><w:t>a</w:t><w:br/></w:r>".toList "</w:p>".toList element
    (Text.whole_iff.mpr (by decide +kernel)) (.inl (by decide +kernel))
    fun _ _ same => absurd same other
  refine ⟨⟨formed, by omega⟩, ?_⟩
  rw [if_neg (by decide)] at short tags
  exact short.trans tags.symm

/-- A cell with an empty paragraph. -/
def emptyCell : Text :=
  "<w:tc><w:p/></w:tc>".toList

/-- A paragraph without content gives a line feed in one of its spellings and none in the other. -/
theorem PlainText.ofPart_ne_emptyCell :
    WellFormed emptyCell ∧ Edge.elements paragraphName emptyCell = 1 ∧ ofPart emptyCell = [] ∧
      ofPart "<w:tc><w:p></w:p></w:tc>".toList = ['\n'] :=
  ⟨⟨Text.whole_iff.mpr (by decide +kernel), by decide +kernel⟩, by decide +kernel,
    by decide +kernel, by decide +kernel⟩

end WordMerge
