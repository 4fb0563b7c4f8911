import WordMerge.Markup.Cell
import WordMerge.Render.Draft
import WordMerge.Template.Nesting
import WordMerge.Template.Reading
import WordMerge.Template.Widening

namespace WordMerge

/-- The tree of a part with its sections widened. -/
def Layout.nesting (layout : Layout) (options : RenderOptions) : Nesting :=
  Nesting.ofPieces (layout.widened options)

/-- Renders a part with data, or tells everything that is wrong with its tags. The part is taken to
pieces, its sections are widened and nested, the tree is evaluated, and cells that lost their
paragraphs are repaired. What the reading found is told first, then what is wrong with the sections,
then what the data could not give. -/
def renderPart (source : Text) (data : Value) (options : RenderOptions) :
    Except (List TagFault) Text :=
  let layout := Layout.ofPart source
  let nesting := layout.nesting options
  let draft := Node.renderAll options.linebreaks [data] {} nesting.nodes
  let faults := layout.faults ++ nesting.allFaults ++ draft.faults.reverse
  if faults.isEmpty then .ok (Cell.repair draft.xml) else .error faults

end WordMerge
