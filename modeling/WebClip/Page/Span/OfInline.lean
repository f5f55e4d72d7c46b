import WebClip.Html.Visible
import WebClip.Markdown.Token
import WebClip.Page.Span
import WebClip.Text.Blank
/-!
# Spans of inline content

Inline content flattened into spans: formatting adds up on the way down, the
innermost link with a URL counts, and an image keeps only the text of what describes it.
-/

namespace WebClip.Page.Span

open WebClip.Text WebClip.Markdown

/-- The text that inline markup shows; a line break shows as one. -/
def shownText (raw : String) : String :=
  if ((trim raw.toList).take 3).map Char.toLower == "<br".toList then "\n"
  else String.ofList (Html.visibleText raw.toList)

/-- The link that holds inside another. -/
def innerLink (url outer : Option String) : Option String :=
  match url with
  | some url => if url.isEmpty then outer else some url
  | none => outer

mutual

/-- The spans of one piece of inline content with the formatting and link around it. -/
def ofInline (marks : Marks) (link : Option String) : Inline → List Span
  | .text raw => [{ text := raw, marks, link }]
  | .strong children => ofInlines { marks with bold := true } link children
  | .emphasis children => ofInlines { marks with italic := true } link children
  | .strikethrough children => ofInlines { marks with strikethrough := true } link children
  | .code raw => [{ text := raw, marks := { marks with code := true }, link }]
  | .link url children => ofInlines marks (innerLink url link) children
  | .image url children =>
    [{ text := plainText (ofInlines {} none children), marks, link, image := url }]
  | .softBreak => [{ text := " ", marks, link }]
  | .lineBreak => [{ text := "\n", marks, link }]
  | .html raw =>
    let text := shownText raw
    if text.isEmpty then [] else [{ text, marks, link }]
  | .group children => ofInlines marks link children
  | .other raw => if raw.isEmpty then [] else [{ text := raw, marks, link }]

/-- The spans of inline content in order. -/
def ofInlines (marks : Marks) (link : Option String) : List Inline → List Span
  | [] => []
  | i :: rest => ofInline marks link i ++ ofInlines marks link rest

end

mutual

/-- What makes a piece of inline markup unreadable, if anything does. -/
def readError? : Inline → Option Html.ReadError
  | .html raw =>
    if ((trim raw.toList).take 3).map Char.toLower == "<br".toList then none
    else Html.readError? raw.toList
  | .strong children | .emphasis children | .strikethrough children | .group children
  | .link _ children | .image _ children => readErrors? children
  | _ => none

/-- The first error of inline content. -/
def readErrors? : List Inline → Option Html.ReadError
  | [] => none
  | i :: rest => (readError? i).or (readErrors? rest)

end

end WebClip.Page.Span
