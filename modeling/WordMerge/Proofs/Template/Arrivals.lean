import WordMerge.Proofs.Template.WidenedNesting

namespace WordMerge

instance (place : Nat) (widening : Widening) : Decidable (Plan.DroppedBy place widening) :=
  match widening with
  | .inline => inferInstanceAs (Decidable False)
  | .row _ => inferInstanceAs (Decidable False)
  | .paragraphs _ _ => inferInstanceAs (Decidable (_ ∨ _))

namespace Plan

variable {pair : Nat × Nat} {anchor place : Nat} {widening : Widening}

/-- Only the tags of a section are sent in front of a place for it. -/
theorem mem_inFront (member : place ∈ inFront pair anchor widening) :
    place = pair.1 ∨ place = pair.2 := by
  have one {a b : Nat} {c : Prop} [Decidable c] (member : a ∈ if c then [b] else []) : a = b := by
    split at member
    · exact List.mem_singleton.mp member
    · cases member
  cases widening with
  | inline => cases member
  | row span => exact .inl (one member)
  | paragraphs first last =>
    rcases List.mem_append.mp member with front | back
    · exact .inl (one front)
    · exact .inr (one back)

theorem mem_behind (member : place ∈ behind pair anchor widening) : place = pair.2 := by
  cases widening with
  | inline => cases member
  | row span =>
    rw [behind] at member
    split at member
    · exact List.mem_singleton.mp member
    · cases member
  | paragraphs first last => cases member

end Plan

namespace Layout

/-- Whether the piece at a place does not come out there. -/
def Leaves (layout : Layout) (options : RenderOptions) (place : Nat) : Prop :=
  ∃ pair ∈ layout.sections, place ∈ Plan.moversOf pair (layout.widening options pair) ∨
    Plan.DroppedBy place (layout.widening options pair)

instance (layout : Layout) (options : RenderOptions) (place : Nat) :
    Decidable (layout.Leaves options place) :=
  inferInstanceAs (Decidable (∃ pair ∈ layout.sections, _ ∨ _))

/-- The places that come out where the piece at a place stands. -/
def arrivals (layout : Layout) (options : RenderOptions) (place : Nat) : List Nat :=
  layout.sections.flatMap (fun pair => Plan.inFront pair place (layout.widening options pair)) ++
    (if layout.Leaves options place then [] else [place]) ++
    layout.sections.reverse.flatMap fun pair =>
      Plan.behind pair place (layout.widening options pair)

variable {layout : Layout} {options : RenderOptions}

/-- What comes out is in the layout. -/
theorem lt_size_of_mem_arrivals {place other : Nat}
    (inside : place < layout.pieces.size) (member : other ∈ layout.arrivals options place) :
    other < layout.pieces.size := by
  rw [arrivals, List.mem_append, List.mem_append, List.mem_flatMap, List.mem_flatMap] at member
  rcases member with (⟨pair, known, front⟩ | own) | ⟨pair, known, back⟩
  · obtain ⟨first, second⟩ := lt_size_of_mem_sections known
    rcases Plan.mem_inFront front with rfl | rfl
    · exact first
    · exact second
  · split at own
    · cases own
    · rwa [List.mem_singleton.mp own]
  · rw [Plan.mem_behind back]
    exact (lt_size_of_mem_sections (List.mem_reverse.mp known)).2

theorem Noted.placesAt_eq_arrivals (noted : layout.Noted) {place : Nat} {slot : Slot}
    (found : (layout.plan options)[place]? = some slot) :
    Plan.placesAt slot place = layout.arrivals options place := by
  obtain ⟨inside, _⟩ := Array.getElem?_eq_some_iff.mp found
  rw [size_plan] at inside
  obtain ⟨same, there, before, after⟩ := layout.exists_slot options inside
  cases found.symm.trans there
  have drops : slot.dropped = true ↔ ∃ pair ∈ layout.sections,
      Plan.DroppedBy place (layout.widening options pair) := by
    have plan := @drops_plan layout options place
    rw [and_iff_right inside, Plan.Drops, found] at plan
    simpa using plan
  have moves : slot.moved = true ↔ ∃ pair ∈ layout.sections,
      place ∈ Plan.moversOf pair (layout.widening options pair) := by
    rw [(noted.settled_plan options).moved place slot found, movers, List.mem_flatMap]
  have leaves : (slot.dropped || slot.moved) = true ↔ layout.Leaves options place := by
    rw [Bool.or_eq_true, drops, moves, Leaves]
    simp only [and_or_left, exists_or]
    exact or_comm
  rw [Plan.placesAt, arrivals, before, after]
  simp only [leaves]

/-- The pieces of a part with its sections widened, place by place. -/
theorem Noted.widened_eq_flatMap (noted : layout.Noted) (options : RenderOptions) :
    layout.widened options = layout.pieces.toList.zipIdx.flatMap fun entry =>
      (layout.arrivals options entry.2).filterMap fun place => layout.pieces[place]? := by
  have slots : (layout.plan options).order =
      (layout.plan options).toList.zipIdx.flatMap fun entry => layout.arrivals options entry.2 := by
    rw [← Plan.orderTo_size, Plan.orderTo, List.take_of_length_le (by simp)]
    refine List.flatMap_congr fun entry member => ?_
    rw [List.mem_zipIdx_iff_getElem?, Array.getElem?_toList] at member
    exact noted.placesAt_eq_arrivals member
  have places {α β : Type} (slots : Array α) (pieces : Array β) (same : slots.size = pieces.size)
      (f : Nat → List Nat) : (slots.toList.zipIdx.flatMap fun entry => f entry.2) =
        pieces.toList.zipIdx.flatMap fun entry => f entry.2 := by
    rw [← List.flatMap_map Prod.snd f, ← List.flatMap_map Prod.snd f, List.zipIdx_map_snd,
      List.zipIdx_map_snd, Array.length_toList, Array.length_toList, same]
  rw [widened, slots, places _ layout.pieces (layout.size_plan options), List.filterMap_flatMap]

end Layout

end WordMerge
