import WordMerge.Template.Layout

namespace WordMerge

/-- A node of a template. A section holds the nodes between its tags. -/
inductive Node where
  /-- XML that goes into the document as it is. -/
  | verbatim (xml : Text)
  /-- A tag whose value goes into the document. -/
  | value (tag : PlacedTag)
  /-- A section with its opening tag, whose kind says when the body is used. -/
  | block (tag : PlacedTag) (body : List Node)
  deriving Repr

namespace Node

instance : Inhabited Node := ⟨.verbatim []⟩

end Node

end WordMerge
