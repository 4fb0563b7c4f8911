import WordMerge.Markup.Edge
import WordMerge.Markup.Entity

namespace WordMerge

/-- The extraction on its way through a part. -/
structure PlainText where
  /-- The pieces of text found so far, the last one first. -/
  pieces : List Text := []
  /-- Whether the place is inside a text element. -/
  inText : Bool := false

namespace PlainText

/-- Passes one item. -/
def step (plain : PlainText) : Item → PlainText
  | .markup raw =>
    match Landmark.ofMarkup raw with
    | .textStart => { plain with inText := true }
    | .textEnd => { plain with inText := false }
    | .lineBreak => { plain with pieces := ['\n'] :: plain.pieces }
    | .paragraphEnd => { plain with pieces := ['\n'] :: plain.pieces }
    | _ => plain
  | .text raw =>
    if plain.inText then { plain with pieces := Entity.unescape raw :: plain.pieces } else plain

/-- The text found so far. -/
def text (plain : PlainText) : Text :=
  plain.pieces.reverse.flatten

/-- The text of a part as a reader of the document sees it: the character data of its text elements,
and a line feed for every line break and at the end of every paragraph. -/
def ofPart (source : Text) : Text :=
  ((Item.scan source).foldl step {}).text

end PlainText

end WordMerge
