import WordMerge.Template.Balance
import WordMerge.Template.Node

namespace WordMerge

/-- A section whose end has not come yet. -/
structure OpenSection where
  /-- Its opening tag. -/
  tag : PlacedTag
  /-- The nodes in it so far, the last one first. -/
  body : List Node := []
  /-- What the XML directly in it does to the elements around it. -/
  balance : Option Balance := some {}

namespace OpenSection

/-- The section as a node. -/
def close (opened : OpenSection) : Node :=
  .block opened.tag opened.body.reverse

/-- What is wrong with closing the section under the given name. -/
def closingFault? (opened : OpenSection) (name : Text) : Option TagFault :=
  if opened.tag.name ≠ name then some (.closingMismatch opened.tag.name name)
  else if !Balance.isBalanced opened.balance then some (.unbalancedLoop opened.tag.name)
  else none

end OpenSection

/-- A tree on its way. -/
structure Nesting where
  /-- The finished nodes outside sections, the last one first. -/
  root : List Node := []
  /-- The open sections, the innermost one first. -/
  sections : List OpenSection := []
  /-- The faults so far, the last one first. -/
  faults : List TagFault := []
  /-- The number of sections that were left out for standing too deep and are still open. -/
  tooDeep : Nat := 0

namespace Nesting

/-- The number of levels in which sections may be nested. -/
def depthLimit : Nat := 256

/-- Adds a node to the innermost open section. -/
def add (n : Nesting) (node : Node) : Nesting :=
  match n.sections with
  | [] => { n with root := node :: n.root }
  | inner :: outer => { n with sections := { inner with body := node :: inner.body } :: outer }

/-- Notes a fault. -/
def report (n : Nesting) (fault : TagFault) : Nesting :=
  { n with faults := fault :: n.faults }

/-- Takes XML into account for the innermost open section. -/
def track (n : Nesting) (xml : Text) : Nesting :=
  match n.sections with
  | [] => n
  | inner :: outer =>
    { n with
      sections :=
        { inner with balance := Balance.track inner.balance (Edge.scan xml) } :: outer }

/-- Passes an opening tag. -/
def openSection (n : Nesting) (tag : PlacedTag) : Nesting :=
  if n.sections.length < depthLimit then { n with sections := ⟨tag, [], some {}⟩ :: n.sections }
  else { n.report (.nestingTooDeep tag.name depthLimit) with tooDeep := n.tooDeep + 1 }

/-- Passes a closing tag. It closes the innermost open section, whatever its name. -/
def closeSection (n : Nesting) (name : Text) : Nesting :=
  if n.tooDeep > 0 then { n with tooDeep := n.tooDeep - 1 }
  else
    match n.sections with
    | [] => n.report (.unopenedLoop name)
    | inner :: outer =>
      let closed := { n with sections := outer }.add inner.close
      (inner.closingFault? name).elim closed closed.report

/-- Passes a piece. Empty XML leaves no node. -/
def step (n : Nesting) : Piece → Nesting
  | .verbatim xml => if xml.isEmpty then n else (n.track xml).add (.verbatim xml)
  | .tag tag =>
    match tag.kind with
    | .value => n.add (.value tag)
    | .opening => n.openSection tag
    | .inverted => n.openSection tag
    | .closing => n.closeSection tag.name

/-- Closes the sections that are still open, the innermost one first. -/
def closeAll (root : List Node) : List OpenSection → List Node
  | [] => root
  | [last] => last.close :: root
  | inner :: next :: outer =>
    closeAll root ({ next with body := inner.close :: next.body } :: outer)
termination_by sections => sections.length

/-- The finished tree. -/
def nodes (n : Nesting) : List Node :=
  (closeAll n.root n.sections).reverse

/-- The faults in the order in which they were found; sections without an end come last, the
outermost one first. -/
def allFaults (n : Nesting) : List TagFault :=
  n.faults.reverse ++ n.sections.reverse.map fun opened => .unclosedLoop opened.tag.name

/-- The tree of some pieces, with what is wrong with its structure. Faults are noted and the reading
goes on, so that one pass finds all of them, and the tree keeps every piece that has a place in
it. -/
def ofPieces (pieces : List Piece) : Nesting :=
  pieces.foldl step {}

end Nesting

end WordMerge
