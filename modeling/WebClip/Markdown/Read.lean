import WebClip.Markdown.Inline
/-!
# Documents

A document read in two passes: the blocks and the definitions of links line by line, then
the inline content of each block.
-/

namespace WebClip.Markdown

open WebClip.Text

/-- The lines of a document. -/
def linesOf (cs : List Char) : List (List Char) := splitOn '\n' (unifyNewlines cs)

mutual

/-- A block with its inline content read. -/
def Draft.toBlock (definitions : Definitions) : Draft → Block
  | .heading level text => .heading (.int level) (inlines definitions text)
  | .paragraph text => .paragraph (inlines definitions text)
  | .quote children => .quote (Draft.toBlocks definitions children)
  | .list ordered _ items => .list ordered (Draft.toItems definitions items)
  | .code info raw =>
    .code (String.ofList (Target.unescape (trimWhile Marker.isAsciiSpace info))) (String.ofList raw)
  | .rule => .rule
  | .html raw => .html (String.ofList raw)

/-- Blocks with their inline content read. -/
def Draft.toBlocks (definitions : Definitions) : List Draft → List Block
  | [] => []
  | d :: rest => d.toBlock definitions :: Draft.toBlocks definitions rest

/-- The items of a list with their inline content read. -/
def Draft.toItems (definitions : Definitions) : List (List Draft) → List (List Block)
  | [] => []
  | own :: rest => Draft.toBlocks definitions own :: Draft.toItems definitions rest

end

/-- The blocks of a document. -/
def read (document : String) : List Block :=
  let (drafts, definitions) := Draft.ofLines (linesOf document.toList)
  Draft.toBlocks definitions drafts

end WebClip.Markdown
