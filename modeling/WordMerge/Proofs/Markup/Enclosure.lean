import WordMerge.Proofs.Markup.Elements

namespace WordMerge

namespace Edge

/-- The elements that are open in front of a place. -/
def openedAt (rows : List (List Edge)) (place : Nat) : List Text :=
  (walk [] (rows.take place).flatten).getD []

/-- A stretch of places that opens elements and closes them all. -/
structure Encloses (rows : List (List Edge)) (first last : Nat) : Prop where
  ordered : first ≤ last
  inside : last < rows.length
  same : openedAt rows (last + 1) = openedAt rows first
  deeper : ∀ place, first < place → place ≤ last →
    (openedAt rows first).length < (openedAt rows place).length

/-- An element that starts at a place with the given elements around it and is still open. -/
structure Begins (rows : List (List Edge)) (outer : List Text) (start : Nat) : Prop where
  inside : start < rows.length
  outside : openedAt rows start = outer
  deeper : ∀ place, start < place → place ≤ rows.length →
    outer.length < (openedAt rows place).length

theorem openedAt_append {rows : List (List Edge)} {place : Nat} (inside : place ≤ rows.length)
    (more : List (List Edge)) : openedAt (rows ++ more) place = openedAt rows place := by
  rw [openedAt, List.take_append_of_le_length inside, openedAt]

theorem openedAt_length {rows : List (List Edge)} {opened : List Text}
    (walked : walk [] rows.flatten = some opened) : openedAt rows rows.length = opened := by
  rw [openedAt, List.take_length, walked, Option.getD_some]

/-- Where a row can be walked through, it can be walked up to every place. -/
theorem walk_take {rows : List (List Edge)} {opened : List Text}
    (walked : walk [] rows.flatten = some opened) (place : Nat) :
    walk [] (rows.take place).flatten = some (openedAt rows place) := by
  rw [← List.take_append_drop place rows, List.flatten_append, walk_append_eq_some] at walked
  obtain ⟨between, front, _⟩ := walked
  rw [openedAt, front, Option.getD_some]

/-- The edges of a place lead from what is open there to what is open behind it. -/
theorem walk_openedAt {rows : List (List Edge)} {opened : List Text} {place : Nat}
    {row : List Edge} (walked : walk [] rows.flatten = some opened)
    (found : rows[place]? = some row) :
    walk (openedAt rows place) row = some (openedAt rows (place + 1)) := by
  have next := walk_take walked (place + 1)
  rw [List.take_add_one, found, List.flatten_append, walk_append_eq_some] at next
  obtain ⟨between, front, here⟩ := next
  rw [walk_take walked place] at front
  cases front
  simpa using here

theorem Encloses.append {rows : List (List Edge)} {first last : Nat}
    (encloses : Encloses rows first last) (more : List (List Edge)) :
    Encloses (rows ++ more) first last := by
  obtain ⟨ordered, inside, same, deeper⟩ := encloses
  refine ⟨ordered, by rw [List.length_append]; omega, ?_, fun place after before => ?_⟩
  · rw [openedAt_append (by omega), openedAt_append (by omega), same]
  · rw [openedAt_append (by omega), openedAt_append (by omega)]
    exact deeper place after before

/-- An open element goes on as long as more elements stay open than around it. -/
theorem Begins.push {rows : List (List Edge)} {outer opened : List Text} {start : Nat}
    (begins : Begins rows outer start) {row : List Edge}
    (walked : walk [] (rows ++ [row]).flatten = some opened)
    (deep : outer.length < opened.length) : Begins (rows ++ [row]) outer start := by
  obtain ⟨inside, outside, deeper⟩ := begins
  have size : (rows ++ [row]).length = rows.length + 1 := by simp
  refine ⟨by omega, ?_, fun place after before => ?_⟩
  · rw [openedAt_append (by omega), outside]
  · by_cases last : place = rows.length + 1
    · rw [last, ← size, openedAt_length walked]
      exact deep
    · rw [openedAt_append (by omega)]
      exact deeper place after (by omega)

/-- An element begins at the place of its start tag. -/
theorem Begins.start {rows : List (List Edge)} {opened : List Text} {row : List Edge} {name : Text}
    (before : walk [] rows.flatten = some opened)
    (walked : walk [] (rows ++ [row]).flatten = some (name :: opened)) :
    Begins (rows ++ [row]) opened rows.length := by
  have size : (rows ++ [row]).length = rows.length + 1 := by simp
  refine ⟨by omega, ?_, fun place after upTo => ?_⟩
  · rw [openedAt_append (Nat.le_refl _), openedAt_length before]
  · have last : place = rows.length + 1 := by omega
    rw [last, ← size, openedAt_length walked, List.length_cons]
    omega

/-- An element is enclosed when it is closed and what was around it is left. -/
theorem Begins.close {rows : List (List Edge)} {outer : List Text} {start : Nat}
    (begins : Begins rows outer start) {row : List Edge}
    (walked : walk [] (rows ++ [row]).flatten = some outer) :
    Encloses (rows ++ [row]) start rows.length := by
  obtain ⟨inside, outside, deeper⟩ := begins
  have size : (rows ++ [row]).length = rows.length + 1 := by simp
  have front : openedAt (rows ++ [row]) start = outer := by
    rw [openedAt_append (by omega), outside]
  refine ⟨by omega, by omega, ?_, fun place after before => ?_⟩
  · rw [← size, openedAt_length walked, front]
  · rw [front, openedAt_append before]
    exact deeper place after before

/-- For each open paragraph, the innermost one first, the elements around it. -/
def aroundParagraphs : List Text → List (List Text)
  | [] => []
  | top :: outer =>
    if top = paragraphName then outer :: aroundParagraphs outer else aroundParagraphs outer

/-- Around a paragraph fewer elements are open than in it. -/
theorem length_lt_of_mem_aroundParagraphs {opened outer : List Text}
    (member : outer ∈ aroundParagraphs opened) : outer.length < opened.length := by
  induction opened with
  | nil => cases member
  | cons top rest ih =>
    rw [List.length_cons]
    unfold aroundParagraphs at member
    split at member
    · rcases List.mem_cons.mp member with rfl | later
      · omega
      · have := ih later
        omega
    · have := ih member
      omega

theorem aroundParagraphs_cons_paragraph (outer : List Text) :
    aroundParagraphs (paragraphName :: outer) = outer :: aroundParagraphs outer := by
  simp [aroundParagraphs]

theorem aroundParagraphs_cons_other {name : Text} (other : name ≠ paragraphName)
    (outer : List Text) : aroundParagraphs (name :: outer) = aroundParagraphs outer := by
  simp [aroundParagraphs, other]

theorem ofEdge_not_mem_of_empty (name : Text) : Landmark.ofEdge ⟨name, .empty⟩ ∉
    [.paragraphStart, .paragraphEnd, .textStart, .textEnd] :=
  Landmark.ofEdge_not_mem (by simp [Landmark.edge?, textOpening, textClosing])

theorem ofEdge_not_mem_of_name {edge : Edge} (paragraph : edge.name ≠ paragraphName)
    (text : edge.name ≠ textName) :
    Landmark.ofEdge edge ∉ [.paragraphStart, .paragraphEnd, .textStart, .textEnd] := by
  refine Landmark.ofEdge_not_mem ?_
  obtain ⟨name, side⟩ := edge
  simp_all [Landmark.edge?, textOpening, textClosing]

/-- What an edge does to the open elements, by its role: paragraphs and text elements begin and
end, and every other edge leaves them as they are and stands outside text elements. -/
theorem passInText_cases {opened after : List Text} {edge : Edge}
    (step : passInText opened edge = some after) (innermost : TextInnermost opened) :
    (Landmark.ofEdge edge = .paragraphStart ∧ after = paragraphName :: opened ∧
      opened.head? ≠ some textName) ∨
    (Landmark.ofEdge edge = .paragraphEnd ∧ opened = paragraphName :: after ∧
      after.head? ≠ some textName) ∨
    (Landmark.ofEdge edge = .textStart ∧ edge = textOpening ∧ after = textName :: opened) ∨
    (Landmark.ofEdge edge = .textEnd ∧ opened = textName :: after ∧
      after.head? ≠ some textName) ∨
    (Landmark.ofEdge edge ∉ [.paragraphStart, .paragraphEnd, .textStart, .textEnd] ∧
      aroundParagraphs after = aroundParagraphs opened ∧ opened.head? ≠ some textName ∧
      after.head? ≠ some textName) := by
  obtain ⟨passed, inText⟩ := passInText_eq_some step
  have outside (other : edge ≠ textClosing) : opened.head? ≠ some textName :=
    fun inside => other (inText inside)
  have around {top : Text} {outer : List Text} (same : opened = top :: outer) :
      outer.head? ≠ some textName := by
    subst same
    exact fun inside => innermost (List.mem_of_mem_head? inside)
  cases pass_eq_some.mp passed with
  | empty name =>
    exact .inr (.inr (.inr (.inr ⟨ofEdge_not_mem_of_empty name, rfl,
      outside (by simp [textClosing]), outside (by simp [textClosing])⟩)))
  | opening name =>
    by_cases paragraph : name = paragraphName
    · exact .inl ⟨by simp [Landmark.ofEdge, paragraph], by rw [paragraph],
        outside (by simp [textClosing])⟩
    · by_cases text : name = textName
      · subst text
        exact .inr (.inr (.inl ⟨rfl, rfl, rfl⟩))
      · exact .inr (.inr (.inr (.inr ⟨ofEdge_not_mem_of_name paragraph text,
          aroundParagraphs_cons_other paragraph opened, outside (by simp [textClosing]),
          by simpa using text⟩)))
  | closing name =>
    by_cases paragraph : name = paragraphName
    · exact .inr (.inl ⟨by simp [Landmark.ofEdge, paragraph], by rw [paragraph], around rfl⟩)
    · by_cases text : name = textName
      · subst text
        exact .inr (.inr (.inr (.inl ⟨rfl, rfl, around rfl⟩)))
      · exact .inr (.inr (.inr (.inr ⟨ofEdge_not_mem_of_name paragraph text,
          (aroundParagraphs_cons_other paragraph after).symm, by simpa using text, around rfl⟩)))

end Edge

end WordMerge
