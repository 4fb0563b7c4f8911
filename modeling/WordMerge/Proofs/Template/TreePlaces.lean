import WordMerge.Proofs.Template.Pairing
import WordMerge.Proofs.Template.Recovery

namespace WordMerge

/-- The nodes are those of the pieces from a place on, and the pairs are the places of the tags around
their sections, in the order of the opening tags. Empty XML has no node. -/
inductive Node.Located : Nat → List Piece → List Node → List (Nat × Nat) → Prop
  | nil {place : Nat} : Located place [] [] []
  | empty {place : Nat} {rest : List Piece} {nodes : List Node} {pairs : List (Nat × Nat)} :
      Located (place + 1) rest nodes pairs → Located place (.verbatim [] :: rest) nodes pairs
  | xml {place : Nat} {xml : Text} {rest : List Piece} {nodes : List Node}
      {pairs : List (Nat × Nat)} : xml ≠ [] → Located (place + 1) rest nodes pairs →
      Located place (.verbatim xml :: rest) (.verbatim xml :: nodes) pairs
  | value {place : Nat} {tag : PlacedTag} {rest : List Piece} {nodes : List Node}
      {pairs : List (Nat × Nat)} : tag.kind = .value → Located (place + 1) rest nodes pairs →
      Located place (.tag tag :: rest) (.value tag :: nodes) pairs
  | block {place : Nat} {opening closing : PlacedTag} {inside rest : List Piece}
      {body nodes : List Node} {within pairs : List (Nat × Nat)} :
      opening.kind.opens = true → closing.kind = .closing → closing.name = opening.name →
      Located (place + 1) inside body within →
      Located (place + 1 + inside.length + 1) rest nodes pairs →
      Located place (.tag opening :: (inside ++ .tag closing :: rest)) (.block opening body :: nodes)
        ((place, place + 1 + inside.length) :: (within ++ pairs))

namespace Node.Located

variable {place : Nat} {pieces more : List Piece} {nodes others : List Node}
  {pairs later : List (Nat × Nat)}

/-- The sections of two rows, one behind the other, are those of both. -/
theorem append (located : Located place pieces nodes pairs)
    (behind : Located (place + pieces.length) more others later) :
    Located place (pieces ++ more) (nodes ++ others) (pairs ++ later) := by
  induction located with
  | nil => exact behind
  | empty _ ih =>
    refine .empty (ih ?_)
    rwa [Nat.add_assoc, Nat.add_comm 1]
  | xml filled _ ih =>
    refine .xml filled (ih ?_)
    rwa [Nat.add_assoc, Nat.add_comm 1]
  | value kind _ ih =>
    refine .value kind (ih ?_)
    rwa [Nat.add_assoc, Nat.add_comm 1]
  | @block place opening closing inside rest body nodes within pairs opens closes name first _ _ ih =>
    have same : place + 1 + inside.length + 1 + rest.length =
        place + (Piece.tag opening :: (inside ++ .tag closing :: rest)).length := by
      simp only [List.length_cons, List.length_append]
      omega
    have next := Located.block opens closes name first (ih (same ▸ behind))
    simpa only [List.cons_append, List.append_assoc] using next

/-- Sections stand among the pieces of their row. -/
theorem bounds (located : Located place pieces nodes pairs) :
    ∀ pair ∈ pairs, place ≤ pair.1 ∧ pair.1 < place + pieces.length := by
  induction located with
  | nil => nofun
  | empty _ ih | xml _ _ ih | value _ _ ih =>
    intro pair member
    have known := ih pair member
    rw [List.length_cons]
    omega
  | block _ _ _ _ _ ihBody ih =>
    intro pair member
    simp only [List.length_cons, List.length_append]
    rw [List.mem_cons, List.mem_append] at member
    rcases member with rfl | inside | behind
    · dsimp only
      omega
    · have known := ihBody pair inside
      omega
    · have known := ih pair behind
      omega

/-- Sections are listed in the order of their opening tags. -/
theorem sorted (located : Located place pieces nodes pairs) :
    pairs.Pairwise fun a b => a.1 < b.1 := by
  induction located with
  | nil => exact .nil
  | empty _ ih | xml _ _ ih | value _ _ ih => exact ih
  | block _ _ _ body rest ihBody ih =>
    refine List.pairwise_cons.mpr ⟨fun pair member => ?_,
      List.pairwise_append.mpr ⟨ihBody, ih, fun a inside b behind => ?_⟩⟩
    · rcases List.mem_append.mp member with inside | behind
      · have known := body.bounds pair inside
        dsimp only
        omega
      · have known := rest.bounds pair behind
        dsimp only
        omega
    · have before := body.bounds a inside
      have after := rest.bounds b behind
      omega

/-- The search for sections finds those of the tree, whatever was open before, and leaves it open. -/
theorem exists_scan (located : Located place pieces nodes pairs) : ∃ new : List (Nat × Nat),
    new.Perm pairs ∧ ∀ stack old,
      SectionPairs.scan ⟨stack, old⟩ place pieces = ⟨stack, new ++ old⟩ := by
  induction located with
  | nil => exact ⟨[], .refl _, fun _ _ => rfl⟩
  | empty _ ih => exact ih
  | xml _ _ ih => exact ih
  | value kind _ ih =>
    obtain ⟨new, perm, found⟩ := ih
    refine ⟨new, perm, fun stack old => ?_⟩
    rw [← found, SectionPairs.scan]
    simp [SectionPairs.step, kind]
  | @block place opening closing inside rest body nodes within pairs opens closes name _ _ ihBody ih =>
    obtain ⟨inner, permInner, foundInner⟩ := ihBody
    obtain ⟨outer, permOuter, foundOuter⟩ := ih
    refine ⟨outer ++ (place, place + 1 + inside.length) :: inner, ?_, fun stack old => ?_⟩
    · refine List.perm_middle.trans (List.Perm.cons _ ?_)
      exact List.perm_append_comm.trans (permInner.append permOuter)
    · rw [SectionPairs.scan, SectionPairs.step_opens _ _ _ opens, SectionPairs.scan_append,
        foundInner, SectionPairs.scan, ← name, SectionPairs.step_closes _ _ _ _ closes, foundOuter,
        List.append_assoc, List.cons_append]

/-- The places of the sections of a tree are those of the sections that are widened. -/
theorem eq_ofPieces (located : Located 0 pieces nodes pairs) :
    pairs = SectionPairs.ofPieces pieces := by
  obtain ⟨new, perm, found⟩ := located.exists_scan
  have all : (SectionPairs.scan {} 0 pieces).pairs = new := by
    rw [found, List.append_nil]
  have same : pairs.Perm (SectionPairs.ofPieces pieces) := by
    rw [SectionPairs.ofPieces, all]
    exact perm.symm.trans (List.mergeSort_perm new _).symm
  exact same.eq_of_pairwise (fun a b _ _ before after => absurd before (Nat.lt_asymm after))
    located.sorted (SectionPairs.disentangled_ofPieces pieces).sorted

end Node.Located

namespace Nesting

open Node Piece

/-- Some pieces end where a tree is on its way: outside sections stand the finished nodes, and an open
section starts with its opening tag, behind which come the nodes in it so far. -/
inductive Underway (root : List Node) : List OpenSection → List Piece → Prop
  | outside {pieces : List Piece} {pairs : List (Nat × Nat)} :
      Located 0 pieces root.reverse pairs → Underway root [] pieces
  | inside {inner : OpenSection} {outer : List OpenSection} {before body : List Piece}
      {pairs : List (Nat × Nat)} : Underway root outer before → inner.tag.kind.opens = true →
      Located (before.length + 1) body inner.body.reverse pairs →
      Underway root (inner :: outer) (before ++ .tag inner.tag :: body)

variable {n m : Nesting} {past : List Piece} {piece : Piece}

theorem Underway.skip {root : List Node} {sections : List OpenSection}
    (underway : Underway root sections past) :
    Underway root sections (past ++ [.verbatim []]) := by
  cases underway with
  | outside located =>
    have next := located.append (.empty .nil)
    rw [List.append_nil] at next
    exact .outside next
  | inside outer opens located =>
    have next := located.append (.empty .nil)
    rw [List.append_nil] at next
    rw [List.append_assoc, List.cons_append]
    exact .inside outer opens next

theorem Underway.add {node : Node} {pieces : List Piece} {pairs : List (Nat × Nat)}
    (underway : Underway n.root n.sections past) (located : Located past.length pieces [node] pairs) :
    Underway (n.add node).root (n.add node).sections (past ++ pieces) := by
  obtain ⟨root, sections, faults, tooDeep⟩ := n
  cases underway with
  | outside first =>
    rw [← Nat.zero_add past.length] at located
    have next := first.append located
    rw [← List.reverse_cons] at next
    exact .outside next
  | @inside inner outer before body within around opens first =>
    have length : (before ++ Piece.tag inner.tag :: body).length = before.length + 1 + body.length := by
      simp only [List.length_append, List.length_cons]
      omega
    rw [length] at located
    have next := first.append located
    rw [← List.reverse_cons] at next
    rw [List.append_assoc, List.cons_append]
    exact .inside around opens next

theorem Underway.track (underway : Underway n.root n.sections past) (xml : Text) :
    Underway (n.track xml).root (n.track xml).sections past := by
  obtain ⟨root, sections, faults, tooDeep⟩ := n
  cases underway with
  | outside located => exact .outside located
  | inside around opens located => exact .inside around opens located

/-- Passing a piece that is no fault of the structure keeps the tree with the pieces. -/
theorem Passing.underway (passing : Passing n piece m) (shallow : n.tooDeep = 0)
    (sound : ∀ fault ∈ m.faults, ¬ fault.Structural) (underway : Underway n.root n.sections past) :
    m.tooDeep = 0 ∧ Underway m.root m.sections (past ++ [piece]) := by
  cases passing with
  | empty => exact ⟨shallow, underway.skip⟩
  | @xml xml filled =>
    refine ⟨?_, (underway.track xml).add (.xml filled .nil)⟩
    rw [add_tooDeep, track_tooDeep, shallow]
  | value kind => exact ⟨by rw [add_tooDeep, shallow], underway.add (.value kind .nil)⟩
  | opened opens room => exact ⟨shallow, .inside underway opens .nil⟩
  | @refused tag opens full =>
    exact absurd (by simp [TagFault.Structural, TagFault.kind])
      (sound (.nestingTooDeep tag.name depthLimit) List.mem_cons_self)
  | left closes left => omega
  | @unopened tag closes _ none =>
    exact absurd (by simp [TagFault.Structural, TagFault.kind])
      (sound (.unopenedLoop tag.name) List.mem_cons_self)
  | @closed tag inner outer closes _ sections =>
    have named : inner.tag.name = tag.name := by
      by_contra other
      have noted : inner.closingFault? tag.name = some (.closingMismatch inner.tag.name tag.name) :=
        if_pos other
      refine sound (.closingMismatch inner.tag.name tag.name) ?_
        (by simp [TagFault.Structural, TagFault.kind])
      rw [add_faults, noted]
      exact List.mem_cons_self
    rw [sections] at underway
    refine ⟨by rw [add_tooDeep, shallow], ?_⟩
    cases underway with
    | @inside _ _ before body pairs around opens first =>
      rw [List.append_assoc, List.cons_append]
      exact Underway.add around (.block opens closes named.symm first .nil)

theorem underway_foldl (pieces : List Piece) (shallow : n.tooDeep = 0)
    (sound : ∀ fault ∈ (pieces.foldl step n).faults, ¬ fault.Structural)
    (underway : Underway n.root n.sections past) :
    Underway (pieces.foldl step n).root (pieces.foldl step n).sections (past ++ pieces) := by
  induction pieces generalizing n past with
  | nil => rwa [List.append_nil]
  | cons piece rest ih =>
    have known := (faults_suffix_foldl rest (n.step piece)).subset
    obtain ⟨deep, next⟩ := (passing_step n piece).underway shallow
      (fun fault member => sound fault (known member)) underway
    rw [List.append_cons]
    exact ih deep sound next

/-- The tree of pieces whose section tags fit. -/
theorem Sound.exists_located {pieces : List Piece} (sound : (ofPieces pieces).Sound) :
    ∃ pairs, Located 0 pieces (ofPieces pieces).nodes pairs := by
  have closed : (ofPieces pieces).sections = [] := by
    refine List.eq_nil_iff_forall_not_mem.mpr fun opened member => ?_
    refine sound (.unclosedLoop opened.tag.name) (List.mem_append_right _ ?_)
      (by simp [TagFault.Structural, TagFault.kind])
    exact List.mem_map.mpr ⟨opened, List.mem_reverse.mpr member, rfl⟩
  have clean : ∀ fault ∈ (ofPieces pieces).faults, ¬ fault.Structural := fun fault member =>
    sound fault (List.mem_append_left _ (List.mem_reverse.mpr member))
  have underway := @underway_foldl {} [] pieces rfl clean (.outside .nil)
  rw [List.nil_append] at underway
  change Underway (ofPieces pieces).root (ofPieces pieces).sections pieces at underway
  rw [closed] at underway
  cases underway with
  | @outside _ pairs located =>
    refine ⟨pairs, ?_⟩
    rwa [nodes, closed, closeAll]

end Nesting

/-- The search for the sections that are widened agrees with the nesting into a tree. Whatever the
pieces are, the sections that it finds come in the order of their opening tags, share no tag, join an
opening tag with a later closing tag of the same name and do not cross. Where the nesting notes no
fault in how the tags fit, they are the sections of the tree and no others. -/
theorem SectionPairs.ofPieces_agrees (pieces : List Piece) :
    Disentangled pieces (ofPieces pieces) ∧
      ((Nesting.ofPieces pieces).Sound → ∀ pairs,
        Node.Located 0 pieces (Nesting.ofPieces pieces).nodes pairs ↔ pairs = ofPieces pieces) := by
  refine ⟨disentangled_ofPieces pieces, fun sound pairs =>
    ⟨fun located => located.eq_ofPieces, fun same => ?_⟩⟩
  obtain ⟨own, located⟩ := sound.exists_located
  rw [same, ← located.eq_ofPieces]
  exact located

/-- A section that ends inside a paragraph in which it does not start, with another section in it. -/
def unevenSection : Text :=
  "<w:t>\x7b#a\x7d\x7b^b\x7dx\x7b/b\x7d</w:t><w:p><w:t>\x7b/a\x7d</w:t></w:p>".toList

theorem ofPart_unevenSection :
    (SectionPairs.scan {} 0 (Layout.ofPart unevenSection).pieces.toList).pairs = [(1, 8), (2, 4)] ∧
      (Nesting.ofPieces (Layout.ofPart unevenSection).pieces.toList).allFaults =
        [.unbalancedLoop ['a']] := by
  decide +kernel

/-- A section that cannot be repeated is in the tree like any other one. -/
theorem located_unevenSection :
    let pieces := (Layout.ofPart unevenSection).pieces.toList
    (Nesting.ofPieces pieces).Sound ∧
      Node.Located 0 pieces (Nesting.ofPieces pieces).nodes [(1, 8), (2, 4)] := by
  obtain ⟨found, faults⟩ := ofPart_unevenSection
  have sound : (Nesting.ofPieces (Layout.ofPart unevenSection).pieces.toList).Sound := by
    intro fault member
    rw [faults, List.mem_singleton] at member
    simp [member, TagFault.Structural, TagFault.kind]
  refine ⟨sound, ((SectionPairs.ofPieces_agrees _).2 sound _).mpr ?_⟩
  rw [SectionPairs.ofPieces, found]
  exact (List.mergeSort_of_pairwise (by decide)).symm

end WordMerge
