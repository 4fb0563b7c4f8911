import WordMerge.Markup.Edge

namespace WordMerge

namespace Cell

/-- The repair on its way through a part. -/
structure Repair where
  /-- The pieces written so far, the last one first. -/
  pieces : List Text := []
  /-- For each open cell, the innermost one first, whether it holds a paragraph. -/
  cells : List Bool := []

/-- The paragraph that a cell without one gets. -/
def emptyParagraph : Text :=
  ['<', 'w', ':', 'p', '/', '>']

/-- Notes a paragraph in the innermost open cell. -/
def noteParagraph : List Bool → List Bool
  | [] => []
  | _ :: outer => true :: outer

/-- Passes one item. -/
def Repair.step (repair : Repair) (item : Item) : Repair :=
  let copied := item.raw :: repair.pieces
  match Edge.ofItem? item with
  | none => { repair with pieces := copied }
  | some edge =>
    if edge.name = cellName then
      match edge.side with
      | .opening => ⟨copied, false :: repair.cells⟩
      | .closing =>
        ⟨if repair.cells.head? = some false then item.raw :: emptyParagraph :: repair.pieces
          else copied, repair.cells.tail⟩
      | .empty => { repair with pieces := copied }
    else if edge.name = paragraphName ∧ edge.side ≠ .closing then
      ⟨copied, noteParagraph repair.cells⟩
    else { repair with pieces := copied }

/-- The part with a paragraph in every cell. -/
def repairAll (source : Text) : Text :=
  ((Item.scan source).foldl Repair.step {}).pieces.reverse.flatten

/-- The part with a paragraph in every cell; a part that mentions no cell is left alone. -/
def repair (source : Text) : Text :=
  if Text.occurs ('<' :: cellName) source then repairAll source else source

end Cell

end WordMerge
