import WordMerge.Markup.Edge

namespace WordMerge

/-- What some markup does to the elements around it: the elements that it closes from outside, the
last one closed first, and the elements that it leaves open, the innermost one first. -/
structure Balance where
  /-- The elements closed from outside. -/
  closed : List Text := []
  /-- The elements left open. -/
  opened : List Text := []
  deriving DecidableEq, Repr

namespace Balance

/-- Passes an edge. An end tag that does not fit the innermost element opened here breaks the
markup for good. -/
def step (balance : Balance) (edge : Edge) : Option Balance :=
  match edge.side with
  | .empty => some balance
  | .opening => some { balance with opened := edge.name :: balance.opened }
  | .closing =>
    match balance.opened with
    | [] => some { balance with closed := edge.name :: balance.closed }
    | top :: outer => if top = edge.name then some { balance with opened := outer } else none

/-- Passes some edges; broken markup stays broken. -/
def track (balance : Option Balance) (edges : List Edge) : Option Balance :=
  balance.bind fun b => edges.foldlM step b

/-- Whether the elements closed from outside are opened again in the order in which they were
open. -/
def restores (balance : Balance) : Bool :=
  balance.opened.reverse == balance.closed

/-- Whether the markup can be repeated: it may close elements that were open before it if it opens
the same ones again, so that any number of copies fits between what stands before and behind it. -/
def isBalanced : Option Balance → Bool
  | some balance => balance.restores
  | none => false

end Balance

end WordMerge
