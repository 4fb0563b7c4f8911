import WordMerge.Markup.Edge

namespace WordMerge

/-- The attribute that keeps white space at the ends of a text element significant, with the space
before it. -/
def preserveAttribute : Text :=
  " xml:space=\"preserve\"".toList

/-- Adds the attribute to a start tag that says nothing about white space, right before the end of
the tag. -/
def preserveSpace (raw : Text) : Text :=
  if Text.occurs "xml:space".toList raw then raw
  else
    let tail := if Edge.endsEmpty raw then 2 else 1
    raw.take (raw.length - tail) ++ preserveAttribute ++ raw.drop (raw.length - tail)

end WordMerge
