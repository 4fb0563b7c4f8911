import WordMerge.Proofs.Template.Partners

namespace WordMerge

/-- What stands at the top of a node: a node without the body of a section. -/
inductive Node.Head where
  /-- XML. -/
  | verbatim (xml : Text)
  /-- The tag of a value. -/
  | value (tag : PlacedTag)
  /-- The opening tag of a section. -/
  | block (tag : PlacedTag)
  deriving DecidableEq, Repr

namespace Node

/-- The piece at the top of a node that has no body. -/
def Head.leaf? : Head → Option Piece
  | .verbatim xml => some (.verbatim xml)
  | .value tag => some (.tag tag)
  | .block _ => none

/-- The tag at the top of a section. -/
def Head.section? : Head → Option PlacedTag
  | .verbatim _ => none
  | .value _ => none
  | .block tag => some tag

mutual

/-- The heads in a node, its own one in front of those of its body. -/
def preorder : Node → List Head
  | .verbatim xml => [.verbatim xml]
  | .value tag => [.value tag]
  | .block tag body => .block tag :: preorderAll body

/-- The heads in some nodes one after the other. -/
def preorderAll : List Node → List Head
  | [] => []
  | node :: rest => preorder node ++ preorderAll rest

end

mutual

/-- The number of sections in a node that stand in one another. -/
def depth : Node → Nat
  | .verbatim _ => 0
  | .value _ => 0
  | .block _ body => depthAll body + 1

/-- The greatest number of sections that stand in one another among some nodes. -/
def depthAll : List Node → Nat
  | [] => 0
  | node :: rest => max (depth node) (depthAll rest)

end

theorem preorderAll_append (a b : List Node) :
    preorderAll (a ++ b) = preorderAll a ++ preorderAll b := by
  induction a with
  | nil => rfl
  | cons node rest ih => simp [preorderAll, ih]

theorem preorderAll_append_singleton (nodes : List Node) (node : Node) :
    preorderAll (nodes ++ [node]) = preorderAll nodes ++ preorder node := by
  simp [preorderAll_append, preorderAll]

theorem depthAll_le_iff {nodes : List Node} {bound : Nat} :
    depthAll nodes ≤ bound ↔ ∀ node ∈ nodes, depth node ≤ bound := by
  induction nodes with
  | nil => simp [depthAll]
  | cons node rest ih => rw [depthAll, Nat.max_le, ih, List.forall_mem_cons]

theorem depthAll_reverse_le {nodes : List Node} {bound : Nat} (small : depthAll nodes ≤ bound) :
    depthAll nodes.reverse ≤ bound := by
  rw [depthAll_le_iff] at small ⊢
  exact fun node member => small node (List.mem_reverse.mp member)

end Node

namespace Piece

/-- Whether a piece has a place of its own in a tree: XML that is not empty, or the tag of a
value. -/
def isLeaf : Piece → Bool
  | .verbatim xml => !xml.isEmpty
  | .tag placed => placed.kind = .value

/-- The number of closing tags among some pieces that end a section opened before them. -/
def excess : List Piece → Nat
  | [] => 0
  | .verbatim _ :: rest => excess rest
  | .tag placed :: rest =>
    match placed.kind with
    | .value => excess rest
    | .opening | .inverted => excess rest - 1
    | .closing => excess rest + 1

/-- A place where a section starts. -/
structure Start where
  /-- Its opening tag. -/
  tag : PlacedTag
  /-- The number of sections around it. -/
  depth : Nat
  /-- Whether a closing tag comes for it. -/
  ended : Bool

/-- The places where sections start, with so many sections around the pieces. Every opening tag
counts, whether its section is kept or not, and every closing tag ends the innermost section,
whatever its name. -/
def starts (depth : Nat) : List Piece → List Start
  | [] => []
  | .verbatim _ :: rest => starts depth rest
  | .tag placed :: rest =>
    match placed.kind with
    | .value => starts depth rest
    | .opening | .inverted => ⟨placed, depth, 0 < excess rest⟩ :: starts (depth + 1) rest
    | .closing => starts (depth - 1) rest

/-- Whether there is room for the section in a tree. -/
def Start.fits (start : Start) : Bool :=
  start.depth < Nesting.depthLimit

/-- Whether the section is in the tree and no closing tag comes for it. -/
def Start.unclosed (start : Start) : Bool :=
  start.fits && !start.ended

/-- What is wrong with a section for which there is no room. -/
def Start.rejection (start : Start) : TagFault :=
  .nestingTooDeep start.tag.name Nesting.depthLimit

/-- What is wrong with a section for which no closing tag comes. -/
def Start.missingEnd (start : Start) : TagFault :=
  .unclosedLoop start.tag.name

/-- The number of sections around what follows a piece with so many sections around it. -/
def depthBehind (depth : Nat) : Piece → Nat
  | .verbatim _ => depth
  | .tag placed =>
    match placed.kind with
    | .value => depth
    | .opening | .inverted => depth + 1
    | .closing => depth - 1

/-- What a piece leaves in a tree with so many sections around it. -/
def heads (depth : Nat) : Piece → List Node.Head
  | .verbatim xml => if xml.isEmpty then [] else [.verbatim xml]
  | .tag placed =>
    match placed.kind with
    | .value => [.value placed]
    | .opening | .inverted => if depth < Nesting.depthLimit then [.block placed] else []
    | .closing => []

/-- What some pieces leave in a tree one after the other. -/
def headsAll (depth : Nat) : List Piece → List Node.Head
  | [] => []
  | piece :: rest => piece.heads depth ++ headsAll (piece.depthBehind depth) rest

/-- What is wrong with a piece with so many sections around it if there is no room for another
one. -/
def rejections (depth : Nat) : Piece → List TagFault
  | .verbatim _ => []
  | .tag placed =>
    if placed.kind.opens && !(depth < Nesting.depthLimit) then
      [.nestingTooDeep placed.name Nesting.depthLimit]
    else []

theorem depthBehind_of_opens {placed : PlacedTag} (opens : placed.kind.opens = true)
    (depth : Nat) : (Piece.tag placed).depthBehind depth = depth + 1 := by
  cases kind : placed.kind <;> simp_all [depthBehind, TagKind.opens]

theorem heads_of_opens {placed : PlacedTag} (opens : placed.kind.opens = true) (depth : Nat) :
    (Piece.tag placed).heads depth =
      if depth < Nesting.depthLimit then [.block placed] else [] := by
  cases kind : placed.kind <;> simp_all [heads, TagKind.opens]

/-- Every opening tag starts a section, closed later or not. -/
theorem starts_of_opens {placed : PlacedTag} (opens : placed.kind.opens = true) (depth : Nat)
    (rest : List Piece) :
    starts depth (.tag placed :: rest) =
      ⟨placed, depth, 0 < excess rest⟩ :: starts (depth + 1) rest := by
  cases kind : placed.kind <;> simp_all [starts, TagKind.opens]

theorem excess_of_opens {placed : PlacedTag} (opens : placed.kind.opens = true)
    (rest : List Piece) : excess (.tag placed :: rest) = excess rest - 1 := by
  cases kind : placed.kind <;> simp_all [excess, TagKind.opens]

/-- Sections that stand too deep are rejected one by one. -/
theorem rejections_starts (piece : Piece) (rest : List Piece) (depth : Nat) :
    ((starts depth (piece :: rest)).filter (!·.fits)).map Start.rejection =
      piece.rejections depth ++
        ((starts (piece.depthBehind depth) rest).filter (!·.fits)).map Start.rejection := by
  cases piece with
  | verbatim xml => rfl
  | tag placed =>
    by_cases room : depth < Nesting.depthLimit <;>
      cases kind : placed.kind <;>
        simp [starts, depthBehind, rejections, kind, Start.fits, Start.rejection, TagKind.opens,
          room]

theorem filterMap_leaf_headsAll (pieces : List Piece) (depth : Nat) :
    (headsAll depth pieces).filterMap Node.Head.leaf? = pieces.filter isLeaf := by
  induction pieces generalizing depth with
  | nil => rfl
  | cons piece rest ih =>
    rw [headsAll, List.filterMap_append, ih]
    cases piece with
    | verbatim xml => cases xml <;> rfl
    | tag placed =>
      by_cases room : depth < Nesting.depthLimit <;>
        cases kind : placed.kind <;> simp [heads, kind, isLeaf, Node.Head.leaf?, room]

theorem filterMap_section_headsAll (pieces : List Piece) (depth : Nat) :
    (headsAll depth pieces).filterMap Node.Head.section? =
      ((starts depth pieces).filter Start.fits).map Start.tag := by
  induction pieces generalizing depth with
  | nil => rfl
  | cons piece rest ih =>
    rw [headsAll, List.filterMap_append, ih]
    cases piece with
    | verbatim xml => cases xml <;> rfl
    | tag placed =>
      by_cases room : depth < Nesting.depthLimit <;>
        cases kind : placed.kind <;>
          simp [heads, kind, starts, depthBehind, Node.Head.section?, Start.fits, room]

end Piece

namespace Nesting

open Node

variable {n : Nesting}

/-- The heads in some open sections, the outermost section first. -/
def openHeads : List OpenSection → List Head
  | [] => []
  | inner :: outer => openHeads outer ++ .block inner.tag :: preorderAll inner.body.reverse

/-- The heads in a tree on its way. -/
def heads (n : Nesting) : List Head :=
  preorderAll n.root.reverse ++ openHeads n.sections

/-- The number of sections under way, the ones without room included. -/
def depth (n : Nesting) : Nat :=
  n.sections.length + n.tooDeep

/-- Whether the nodes in open sections stand no deeper than the room around each section allows. -/
def Roomy : List OpenSection → Prop
  | [] => True
  | inner :: outer =>
    depthAll inner.body + outer.length + 1 ≤ depthLimit ∧ Roomy outer

/-- A tree on its way that stays within its limit and leaves out a section only where the limit is
reached. -/
structure Limited (n : Nesting) : Prop where
  root : depthAll n.root ≤ depthLimit
  sections : Roomy n.sections
  full : 0 < n.tooDeep → n.sections.length = depthLimit

theorem limited_start : Limited {} :=
  ⟨Nat.zero_le _, trivial, fun some => absurd some (Nat.lt_irrefl 0)⟩

theorem Limited.length_le (limited : Limited n) : n.sections.length ≤ depthLimit := by
  have roomy := limited.sections
  cases sections : n.sections with
  | nil => exact Nat.zero_le _
  | cons inner outer =>
    rw [sections] at roomy
    have room := roomy.1
    rw [List.length_cons]
    omega

/-- There is room for a section exactly if no more sections are under way than the limit allows. -/
theorem Limited.room_iff (limited : Limited n) :
    n.sections.length < depthLimit ↔ n.depth < depthLimit := by
  have full := limited.full
  unfold depth
  omega

/-- Adding a node adds what it holds, in preorder. -/
theorem add_heads (n : Nesting) (node : Node) :
    (n.add node).heads = n.heads ++ preorder node := by
  unfold add heads
  split
  · next none => simp [none, openHeads, preorderAll_append_singleton]
  · next inner outer sections => simp [sections, openHeads, preorderAll_append_singleton]

theorem track_heads (n : Nesting) (xml : Text) : (n.track xml).heads = n.heads := by
  unfold track heads
  split
  · rfl
  · next inner outer sections => simp [sections, openHeads]

/-- Closing the innermost section moves its heads into the section around it. -/
theorem add_close_heads (root : List Node) (inner : OpenSection) (outer : List OpenSection)
    (faults : List TagFault) (tooDeep : Nat) :
    (add ⟨root, outer, faults, tooDeep⟩ inner.close).heads =
      heads ⟨root, inner :: outer, faults, tooDeep⟩ := by
  rw [add_heads]
  simp [heads, openHeads, OpenSection.close, preorder]

/-- A step goes as deep as the piece says. -/
theorem Passing.depth_eq {m : Nesting} {piece : Piece} (passing : Passing n piece m)
    (limited : Limited n) : m.depth = piece.depthBehind n.depth := by
  have full := limited.full
  cases passing with
  | empty => rfl
  | xml filled =>
    simp only [depth, add_sections_length, add_tooDeep, track_tooDeep, Piece.depthBehind]
    rw [← List.length_map OpenSection.tag, track_tags, List.length_map]
  | value kind => simp [depth, add_sections_length, add_tooDeep, Piece.depthBehind, kind]
  | opened opens room =>
    rw [Piece.depthBehind_of_opens opens]
    show n.sections.length + 1 + n.tooDeep = n.sections.length + n.tooDeep + 1
    omega
  | refused opens closed => rw [Piece.depthBehind_of_opens opens, depth, depth, Nat.add_assoc]
  | left closes left =>
    simp only [depth, Piece.depthBehind, closes]
    omega
  | unopened closes shallow none =>
    simp [depth, Piece.depthBehind, closes, report, shallow, none]
  | closed closes shallow sections =>
    simp [depth, Piece.depthBehind, closes, add_sections_length, add_tooDeep, shallow, sections]

/-- What a piece leaves in the tree. -/
theorem Passing.heads_eq {m : Nesting} {piece : Piece} (passing : Passing n piece m)
    (limited : Limited n) : m.heads = n.heads ++ piece.heads n.depth := by
  cases passing with
  | empty => simp [Piece.heads]
  | xml filled => simp [Piece.heads, filled, add_heads, track_heads, preorder]
  | value kind => simp [Piece.heads, kind, add_heads, preorder]
  | opened opens room =>
    rw [Piece.heads_of_opens opens, if_pos (limited.room_iff.mp room)]
    simp [heads, openHeads, preorderAll]
  | refused opens full =>
    rw [Piece.heads_of_opens opens, if_neg (mt limited.room_iff.mpr full), List.append_nil]
    rfl
  | left closes left =>
    simp only [Piece.heads, closes, List.append_nil]
    rfl
  | unopened closes shallow none =>
    simp only [Piece.heads, closes, List.append_nil]
    rfl
  | closed closes shallow sections =>
    rw [add_close_heads]
    simp [Piece.heads, closes, heads, sections]

theorem Limited.add {node : Node} (limited : Limited n)
    (small : node.depth + n.sections.length ≤ depthLimit) : Limited (n.add node) := by
  obtain ⟨root, sections, faults, tooDeep⟩ := n
  obtain ⟨rootSmall, roomy, full⟩ := limited
  cases sections with
  | nil => exact ⟨Nat.max_le.mpr ⟨small, rootSmall⟩, trivial, full⟩
  | cons inner outer =>
    refine ⟨rootSmall, ⟨?_, roomy.2⟩, full⟩
    have room := roomy.1
    simp only [List.length_cons, depthAll] at small room ⊢
    omega

theorem Limited.track (limited : Limited n) (xml : Text) : Limited (n.track xml) := by
  obtain ⟨root, sections, faults, tooDeep⟩ := n
  cases sections with
  | nil => exact limited
  | cons inner outer => exact ⟨limited.root, limited.sections, limited.full⟩

/-- No step goes past the limit of the depth. -/
theorem Passing.limited {m : Nesting} {piece : Piece} (passing : Passing n piece m)
    (before : Limited n) : Limited m := by
  have length := before.length_le
  obtain ⟨rootSmall, roomy, full⟩ := before
  cases passing with
  | empty => exact ⟨rootSmall, roomy, full⟩
  | xml filled =>
    refine (Limited.track ⟨rootSmall, roomy, full⟩ _).add ?_
    rw [← List.length_map OpenSection.tag, track_tags, List.length_map, Node.depth]
    omega
  | value kind =>
    refine Limited.add ⟨rootSmall, roomy, full⟩ ?_
    rw [Node.depth]
    omega
  | opened opens room =>
    refine ⟨rootSmall, ⟨?_, roomy⟩, fun left => ?_⟩
    · rw [depthAll]
      omega
    · have reached := full left
      omega
  | refused opens closed =>
    exact ⟨rootSmall, roomy, fun _ => show n.sections.length = depthLimit by omega⟩
  | left closes left => exact ⟨rootSmall, roomy, fun _ => full left⟩
  | unopened closes shallow none => exact ⟨rootSmall, roomy, full⟩
  | @closed tag inner outer closes shallow sections =>
    rw [sections] at roomy
    -- the section takes one level more than its body, and one level less is around it
    refine Limited.add ⟨rootSmall, roomy.2, fun left => ?_⟩ ?_
    · rw [shallow] at left
      exact absurd left (Nat.lt_irrefl 0)
    · have room := roomy.1
      have body := depthAll_reverse_le (Nat.le_refl (depthAll inner.body))
      rw [OpenSection.close, Node.depth]
      show depthAll inner.body.reverse + 1 + outer.length ≤ depthLimit
      omega

/-- The sections under way behind some pieces: those of the ones in front that are not ended, and
behind them those that start among the pieces and are not ended. -/
theorem tags_foldl_step (pieces : List Piece) (limited : Limited n) :
    ((pieces.foldl step n).sections.map OpenSection.tag).reverse =
      ((n.sections.map OpenSection.tag).drop (Piece.excess pieces - n.tooDeep)).reverse ++
        ((Piece.starts n.depth pieces).filter Piece.Start.unclosed).map Piece.Start.tag := by
  -- The tree is built from the front and `excess` is counted from the back: each case says that
  -- the two agree on one piece.
  induction pieces generalizing n with
  | nil => simp [Piece.excess, Piece.starts]
  | cons piece rest ih =>
    have passing := passing_step n piece
    have later := passing.limited limited
    have deeper := passing.depth_eq limited
    rw [List.foldl_cons, ih later, deeper]
    generalize n.step piece = m at passing
    cases passing with
    | empty => rfl
    | xml filled =>
      rw [add_tags, track_tags, add_tooDeep, track_tooDeep]
      rfl
    | value kind =>
      simp only [add_tags, add_tooDeep, Piece.excess, Piece.starts, Piece.depthBehind, kind]
    | @opened tag opens room =>
      have shallow : n.tooDeep = 0 := by
        have full := limited.full
        omega
      rw [Piece.depthBehind_of_opens opens, Piece.excess_of_opens opens,
        Piece.starts_of_opens opens]
      cases ended : Piece.excess rest with
      | zero =>
        simp [shallow, Piece.Start.unclosed, Piece.Start.fits, limited.room_iff.mp room]
      | succ further =>
        simp [shallow, Piece.Start.unclosed]
    | refused opens full =>
      rw [Piece.depthBehind_of_opens opens, Piece.excess_of_opens opens,
        Piece.starts_of_opens opens]
      simp [Piece.Start.unclosed, Piece.Start.fits, mt limited.room_iff.mpr full, Nat.sub_sub,
        Nat.add_comm]
    | left closes left =>
      simp only [Piece.excess, Piece.starts, Piece.depthBehind, closes]
      congr 3
      omega
    | unopened closes shallow none =>
      simp [Piece.excess, Piece.starts, Piece.depthBehind, closes, report, none]
    | closed closes shallow sections =>
      simp [Piece.excess, Piece.starts, Piece.depthBehind, closes, shallow, sections, add_tags,
        add_tooDeep]

/-- What a piece adds to the faults. Only a section without room is rejected, and no section is
without an end as long as pieces come. -/
theorem Passing.exists_faults {m : Nesting} {piece : Piece} (passing : Passing n piece m)
    (limited : Limited n) :
    ∃ noted, m.faults = noted ++ n.faults ∧ (∀ fault ∈ noted, fault.kind ≠ .unclosedLoop) ∧
      noted.reverse.filter (·.kind = .nestingTooDeep) = piece.rejections n.depth := by
  cases passing with
  | empty => exact ⟨[], rfl, by simp, rfl⟩
  | xml filled => exact ⟨[], by rw [add_faults, track_faults, List.nil_append], by simp, rfl⟩
  | value kind =>
    exact ⟨[], add_faults n _, by simp, by simp [Piece.rejections, kind, TagKind.opens]⟩
  | opened opens room =>
    exact ⟨[], rfl, by simp, by simp [Piece.rejections, limited.room_iff.mp room]⟩
  | @refused tag opens full =>
    refine ⟨[.nestingTooDeep tag.name depthLimit], rfl, by simp [TagFault.kind], ?_⟩
    have full := mt limited.room_iff.mpr full
    simp [Piece.rejections, opens, full, TagFault.kind]
  | left closes left =>
    exact ⟨[], rfl, by simp, by simp [Piece.rejections, closes, TagKind.opens]⟩
  | @unopened tag closes shallow none =>
    refine ⟨[.unopenedLoop tag.name], rfl, by simp [TagFault.kind], ?_⟩
    simp [Piece.rejections, closes, TagKind.opens, TagFault.kind]
  | @closed tag inner outer closes shallow sections =>
    refine ⟨(inner.closingFault? tag.name).toList, by rw [add_faults], fun fault member => ?_, ?_⟩
    · rcases OpenSection.kind_of_closingFault? (Option.mem_toList.mp member) with kind | kind <;> simp [kind]
    · rw [List.filter_eq_nil_iff.mpr]
      · simp [Piece.rejections, closes, TagKind.opens]
      · intro fault member
        have noted := Option.mem_toList.mp (List.mem_reverse.mp member)
        rcases OpenSection.kind_of_closingFault? noted with kind | kind <;> simp [kind]

/-- The faults that some pieces add. -/
theorem exists_faults_foldl_step (pieces : List Piece) (limited : Limited n) :
    ∃ noted, (pieces.foldl step n).faults = noted ++ n.faults ∧
      (∀ fault ∈ noted, fault.kind ≠ .unclosedLoop) ∧
      noted.reverse.filter (·.kind = .nestingTooDeep) =
        ((Piece.starts n.depth pieces).filter (!·.fits)).map Piece.Start.rejection := by
  induction pieces generalizing n with
  | nil => exact ⟨[], rfl, by simp, rfl⟩
  | cons piece rest ih =>
    have passing := passing_step n piece
    obtain ⟨first, here, firstEnded, firstDeep⟩ := passing.exists_faults limited
    obtain ⟨noted, later, ended, deep⟩ := ih (passing.limited limited)
    refine ⟨noted ++ first, ?_, fun fault member => ?_, ?_⟩
    · rw [List.foldl_cons, later, here, List.append_assoc]
    · exact (List.mem_append.mp member).elim (ended fault) (firstEnded fault)
    · rw [List.reverse_append, List.filter_append, deep, firstDeep, passing.depth_eq limited,
        Piece.rejections_starts]

/-- What some pieces leave in the tree. -/
theorem heads_foldl_step (pieces : List Piece) (limited : Limited n) :
    (pieces.foldl step n).heads = n.heads ++ Piece.headsAll n.depth pieces := by
  induction pieces generalizing n with
  | nil => rw [Piece.headsAll, List.append_nil, List.foldl_nil]
  | cons piece rest ih =>
    have passing := passing_step n piece
    rw [List.foldl_cons, ih (passing.limited limited), passing.heads_eq limited,
      passing.depth_eq limited, Piece.headsAll, List.append_assoc]

theorem limited_foldl_step (pieces : List Piece) (limited : Limited n) :
    Limited (pieces.foldl step n) := by
  induction pieces generalizing n with
  | nil => exact limited
  | cons piece rest ih => exact ih ((passing_step n piece).limited limited)

/-- Closing the open sections at the end keeps the heads in their order. -/
theorem preorderAll_closeAll (root : List Node) (sections : List OpenSection) :
    preorderAll (closeAll root sections).reverse =
      preorderAll root.reverse ++ openHeads sections := by
  fun_induction closeAll root sections with
  | case1 => simp [openHeads]
  | case2 last =>
    simp [openHeads, preorderAll_append_singleton, OpenSection.close, preorder]
  | case3 inner next outer ih =>
    rw [ih]
    simp [openHeads, preorderAll_append_singleton, OpenSection.close, preorder]

/-- Closing the open sections at the end nests no deeper than the room around them allows. -/
theorem depthAll_closeAll {root : List Node} {sections : List OpenSection}
    (small : depthAll root ≤ depthLimit) (roomy : Roomy sections) :
    depthAll (closeAll root sections) ≤ depthLimit := by
  fun_induction closeAll root sections with
  | case1 => exact small
  | case2 last =>
    have body := depthAll_reverse_le (Nat.le_refl (depthAll last.body))
    have room := roomy.1
    simp only [List.length_nil] at room
    simp only [depthAll, OpenSection.close, Node.depth]
    omega
  | case3 inner next outer ih =>
    refine ih ⟨?_, roomy.2.2⟩
    have body := depthAll_reverse_le (Nat.le_refl (depthAll inner.body))
    have room := roomy.1
    have outside := roomy.2.1
    simp only [List.length_cons] at room
    simp only [depthAll, OpenSection.close, Node.depth]
    omega

/-- However badly section tags fit, the tree holds the other pieces. Its leaves are the pieces that
are XML or values, in their order. Its sections are those that start with fewer than `depthLimit`
sections around them, and every other one is rejected; so no more than `depthLimit` sections stand
in one another. The last faults are the sections without an end, the outermost one first. -/
theorem ofPieces_keeps_pieces (pieces : List Piece) :
    (preorderAll (ofPieces pieces).nodes).filterMap Head.leaf? = pieces.filter Piece.isLeaf ∧
    (preorderAll (ofPieces pieces).nodes).filterMap Head.section? =
      ((Piece.starts 0 pieces).filter Piece.Start.fits).map Piece.Start.tag ∧
    (ofPieces pieces).allFaults.filter (·.kind = .nestingTooDeep) =
      ((Piece.starts 0 pieces).filter (!·.fits)).map Piece.Start.rejection ∧
    depthAll (ofPieces pieces).nodes ≤ depthLimit ∧
    ∃ found, (ofPieces pieces).allFaults =
        found ++ ((Piece.starts 0 pieces).filter Piece.Start.unclosed).map Piece.Start.missingEnd ∧
      ∀ fault ∈ found, fault.kind ≠ .unclosedLoop := by
  have limited : Limited (ofPieces pieces) := limited_foldl_step pieces limited_start
  have heads : preorderAll (ofPieces pieces).nodes = Piece.headsAll 0 pieces := by
    rw [nodes, preorderAll_closeAll]
    exact heads_foldl_step pieces limited_start
  obtain ⟨noted, faults, ended, deep⟩ := exists_faults_foldl_step pieces limited_start
  have tags : (ofPieces pieces).sections.reverse.map OpenSection.tag =
      ((Piece.starts 0 pieces).filter Piece.Start.unclosed).map Piece.Start.tag := by
    have run := tags_foldl_step pieces limited_start
    simp only [List.map_nil, List.drop_nil, List.reverse_nil, List.nil_append] at run
    rw [List.map_reverse]
    exact run
  have unclosed : (ofPieces pieces).sections.reverse.map
        (fun opened => TagFault.unclosedLoop opened.tag.name) =
      ((Piece.starts 0 pieces).filter Piece.Start.unclosed).map Piece.Start.missingEnd := by
    have named := congrArg (List.map fun tag => TagFault.unclosedLoop tag.name) tags
    rwa [List.map_map, List.map_map] at named
  have all : (ofPieces pieces).allFaults = noted.reverse ++
      ((Piece.starts 0 pieces).filter Piece.Start.unclosed).map Piece.Start.missingEnd := by
    rw [allFaults, unclosed, ofPieces, faults, List.append_nil]
  refine ⟨?_, ?_, ?_, ?_, noted.reverse, all, ?_⟩
  · rw [heads, Piece.filterMap_leaf_headsAll]
  · rw [heads, Piece.filterMap_section_headsAll]
  · have others : (((Piece.starts 0 pieces).filter Piece.Start.unclosed).map
        Piece.Start.missingEnd).filter (·.kind = .nestingTooDeep) = [] := by
      refine List.filter_eq_nil_iff.mpr fun fault member => ?_
      obtain ⟨start, _, rfl⟩ := List.mem_map.mp member
      simp [Piece.Start.missingEnd, TagFault.kind]
    rw [all, List.filter_append, deep, others, List.append_nil]
    rfl
  · exact depthAll_reverse_le (depthAll_closeAll limited.root limited.sections)
  · exact fun fault member => ended fault (List.mem_reverse.mp member)

end Nesting

end WordMerge
