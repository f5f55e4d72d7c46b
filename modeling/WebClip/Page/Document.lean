import WebClip.Page.Node.OfBlocks
import WebClip.Value.Number
/-!
# Documents

The nodes of a whole document, or why there are none: markup that nobody can read ends
the document it stands in.
-/

namespace WebClip.Page

/-- The fault of markup that cannot be read. -/
def readFault : Html.ReadError → Fault
  | .refused => .badMarkup
  | .oversized digits => Value.tooManyDigits digits

/-- The nodes of a document, with image URLs made absolute against a base. -/
def nodesOf (base : Option String) (document : List Markdown.Block) : Except Fault (List Node) :=
  match Node.readError? document with
  | some e => .error (readFault e)
  | none => .ok (Node.ofBlocks base document)

end WebClip.Page
