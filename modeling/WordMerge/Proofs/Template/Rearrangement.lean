import WordMerge.Proofs.Template.Spans

namespace WordMerge

namespace Plan

variable {plan : Plan} {movers : List Nat}

theorem Settled.mem_of_mem_slot (settled : plan.Settled movers) {slot : Slot} (known : slot ∈ plan.toList)
    {place : Nat} (guest : place ∈ slot.before ++ slot.after) : place ∈ movers :=
  settled.guests.mem_iff.mp (List.mem_flatMap.mpr ⟨slot, known, guest⟩)

/-- Without the places that move, what comes out is what stays where it stands. -/
theorem Settled.filter_order (settled : plan.Settled movers) :
    (plan.order.filter fun place => place ∉ movers) = plan.residents := by
  rw [order, residents, List.filter_flatMap]
  refine List.flatMap_congr fun entry member => ?_
  obtain ⟨slot, place⟩ := entry
  have found := List.mem_zipIdx_iff_getElem?.mp member
  rw [Array.getElem?_toList] at found
  have known : slot ∈ plan.toList := List.fst_mem_of_mem_zipIdx member
  have gone {places : List Nat} (guests : places ⊆ slot.before ++ slot.after) :
      (places.filter fun place => place ∉ movers) = [] := by
    refine List.filter_eq_nil_iff.mpr fun other inside => ?_
    simpa using settled.mem_of_mem_slot known (guests inside)
  have own : ((if slot.dropped || slot.moved then [] else [place]).filter fun place => place ∉ movers) =
      if slot.dropped || slot.moved then [] else [place] := by
    split
    · rfl
    · next stays =>
      have unmoved : place ∉ movers := fun moves =>
        stays (by rw [(settled.moved place slot found).mpr moves, Bool.or_true])
      simp [unmoved]
  rw [List.filter_append, List.filter_append, gone (List.subset_append_left _ _),
    gone (List.subset_append_right _ _), own, List.nil_append, List.append_nil]

end Plan

namespace Layout

variable {layout : Layout} {options : RenderOptions}

/-- A place is in a paragraph that disappears with a section. -/
def Dropped (layout : Layout) (options : RenderOptions) (place : Nat) : Prop :=
  ∃ pair ∈ layout.sections, Plan.DroppedBy place (layout.widening options pair)

/-- The given places are those of the pieces that come out when the sections of a part are widened. Each
section tag that moves is among them once, each other place once unless it is dropped, and no place else;
those that do not move are in the order in which they stand. -/
structure Rearranged (layout : Layout) (options : RenderOptions) (places : List Nat) : Prop where
  spells : (layout.widened options).map some = places.map fun place => layout.pieces[place]?
  moved : ∀ place ∈ layout.movers options, places.count place = 1 ∧
    ∃ tag, layout.pieces[place]? = some (.tag tag) ∧ tag.kind ≠ .value
  stays : ∀ place < layout.pieces.size, place ∉ layout.movers options →
    ¬ layout.Dropped options place → places.count place = 1
  only : ∀ place ∈ places, place < layout.pieces.size ∧
    (place ∈ layout.movers options ∨ ¬ layout.Dropped options place)
  single : ∀ place, places.count place ≤ 1
  inOrder : (places.filter fun place => place ∉ layout.movers options).Pairwise (· < ·)

theorem drops_iff_dropped {place : Nat} (inside : place < layout.pieces.size) :
    (layout.plan options).Drops place ↔ layout.Dropped options place := by
  rw [drops_plan, and_iff_right inside, Dropped]

/-- Widening takes a part to pieces in a new order, and neither loses nor doubles a place. -/
theorem rearranged_order (source : Text) (options : RenderOptions) :
    (ofPart source).Rearranged options ((ofPart source).plan options).order := by
  have noted := noted_ofPart source
  have distinct := noted.nodup_order options
  generalize ofPart source = layout at noted distinct
  have among {place : Nat} (inside : place < layout.pieces.size) :
      place ∈ (layout.plan options).order ↔
        place ∈ layout.movers options ∨ ¬ layout.Dropped options place := by
    rw [noted.mem_order options inside, drops_iff_dropped inside]
  refine ⟨?_, fun place moves => ⟨?_, ?_⟩, fun place inside _ stays => ?_, fun place member => ?_,
    List.nodup_iff_count_le_one.mp distinct, ?_⟩
  · rw [widened, List.map_filterMap_some_eq_filter_map_isSome, List.filter_eq_self]
    intro piece member
    obtain ⟨place, comes, rfl⟩ := List.mem_map.mp member
    rw [Array.getElem?_eq_getElem (noted.lt_size_of_mem_order comes)]
    rfl
  · exact List.count_eq_one_of_mem distinct ((among (lt_size_of_mem_movers moves)).mpr (.inl moves))
  · obtain ⟨pair, known, mover⟩ := List.mem_flatMap.mp moves
    obtain ⟨opening, closing⟩ := SectionPairs.ofPieces_sections known
    rcases List.mem_pair.mp (Plan.mem_pair_of_mem_moversOf mover) with rfl | rfl
    · exact opening
    · exact closing
  · exact List.count_eq_one_of_mem distinct ((among inside).mpr (.inr stays))
  · have inside := noted.lt_size_of_mem_order member
    exact ⟨inside, (among inside).mp member⟩
  · rw [(noted.settled_plan options).filter_order]
    exact List.pairwise_lt_range.sublist (Plan.residents_sublist _)

end Layout

end WordMerge
