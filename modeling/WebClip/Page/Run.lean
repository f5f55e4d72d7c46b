import WebClip.Chunk
import WebClip.Html.Reference
import WebClip.Page.Link
import WebClip.Page.Span
/-!
# Runs

The rich text of a block: runs of at most 2000 characters, neighbours differing in
formatting or link unless the limit parts them. Character references are decoded and
targets that are no links dropped.
-/

namespace WebClip.Page

open WebClip.Text

/-- A run of text. -/
structure Run where
  content : String
  marks : Marks := {}
  link : Option String := none
  deriving DecidableEq, Inhabited

namespace Run

/-- A text with its character references decoded. -/
def decoded (s : String) : String := String.ofList (Html.decode s.toList)

/-- The link of a span as its run has it. -/
def linkOf (s : Span) : Option String :=
  match s.link with
  | none => none
  | some url =>
    if url.isEmpty then none
    else
      let url := decoded url
      if url.isEmpty || isLink url then some url else none

/-- The run of a span; an image has none, and neither has a span without text. -/
def ofSpan? (s : Span) : Option Run :=
  if s.isImage then none
  else
    let text := decoded s.text
    if text.isEmpty then none else some { content := text, marks := s.marks, link := linkOf s }

/-- Put a run in front of others, as part of the first one if that looks the same. -/
def push (r : Run) : List Run → List Run
  | [] => [r]
  | next :: rest =>
    if next.marks = r.marks && next.link = r.link then
      { r with content := r.content ++ next.content } :: rest
    else r :: next :: rest

/-- Neighbours that look the same joined. -/
def join (runs : List Run) : List Run := runs.foldr push []

/-- A run cut at the limit. -/
def cut (r : Run) : List Run := (cutText maxTextLength r.content).map fun c => { r with content := c }

/-- The runs of spans; white space alone has none. -/
def ofSpans (spans : List Span) : List Run :=
  let runs := join (spans.filterMap ofSpan?)
  if runs.all fun r => blank r.content then [] else runs.flatMap cut

/-- The runs of a plain text, which is taken as it is. -/
def ofText (text : String) : List Run := cut { content := text }

/-- The text of runs. -/
def text (runs : List Run) : String := String.ofList (runs.flatMap (·.content.toList))

/-- The digits of the first character reference in the spans that has too many. -/
def oversized? (spans : List Span) : Option Nat :=
  spans.findSome? fun s =>
    if s.isImage then none
    else match Html.oversized? s.text.toList with
      | some digits => some digits
      | none => if (decoded s.text).isEmpty then none
        else s.link.bind fun url => Html.oversized? url.toList

end Run

end WebClip.Page
