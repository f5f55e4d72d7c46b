import WebClip.Page.Node
import WebClip.Page.Span.OfInline
import WebClip.Url.Parts
/-!
# Nodes of a document

A document tree flattened into nodes. Lists lose their nesting but keep it as a
depth, a quote becomes one run of spans, and markup of its own becomes its visible
text and its images.
-/

namespace WebClip.Page.Node

open WebClip.Text WebClip.Markdown

/-- Whether an image URL needs a base. -/
def isRelative (url : String) : Bool :=
  let absolute := ["data:", "http://", "https://"].any fun s => startsWith s.toList url.toList
  !url.isEmpty && !absolute

/-- An image URL made absolute; what cannot be resolved stays as it is. -/
def resolve (base : Option String) (url : String) : String :=
  match base with
  | none => url
  | some base =>
    if base.isEmpty || !isRelative url then url
    else match Url.join base.toList url.toList with
      | .ok joined => String.ofList joined
      | .error _ => url

/-- The spans of inline content with absolute image URLs. -/
def spansOf (base : Option String) (children : List Inline) : List Span :=
  (Span.ofInlines {} none children).map fun s => { s with image := s.image.map (resolve base) }

/-- The span between two lines of one node. -/
def lineEnd : Span := .plain "\n"

/-- The nodes of a paragraph: itself, or its images when it holds nothing else. -/
def ofParagraph (spans : List Span) : List Node :=
  if !spans.isEmpty && spans.all fun s => s.isImage || blank s.text then
    spans.filterMap fun s => s.image.map fun url => .image url s.text
  else [.paragraph (some spans)]

/-- The first word of a code block's info text. -/
def languageOf (info : String) : String := String.ofList ((words info.toList).headD [])

/-- A code block's text without the line feed at its end. -/
def codeText (raw : String) : String :=
  String.ofList (if raw.toList.getLast? == some '\n' then raw.toList.dropLast else raw.toList)

/-- The URL of an image element. -/
def sourceOf (attributes : Html.Attributes) : String :=
  let src := (Html.valueOf? "src" attributes).getD ""
  if src.isEmpty then (Html.valueOf? "data-src" attributes).getD "" else src

/-- The nodes of markup: its visible text, then its images. -/
def ofHtml (base : Option String) (raw : String) : List Node :=
  let text := String.ofList (trim (Html.visibleText raw.toList))
  let images := (Html.images raw.toList).filterMap fun attributes =>
    let src := sourceOf attributes
    if src.isEmpty then none
    else some (.image (resolve base src) ((Html.valueOf? "alt" attributes).getD ""))
  if text.isEmpty then images else .paragraph (some [.plain text]) :: images

/-- Spans without a line end as the last one. -/
def dropLineEnd (spans : List Span) : List Span :=
  match spans.getLast? with
  | some s => if s.text = "\n" && !s.isImage then spans.dropLast else spans
  | none => []

/-- Spans followed by a line end, if there are any. -/
def endLine (spans : List Span) : List Span :=
  if spans.isEmpty then [] else spans ++ [lineEnd]

mutual

/-- The spans of a block in a quote. -/
def quotedBlock (base : Option String) : Block → List Span
  | .heading _ children | .paragraph children => spansOf base children
  | .code _ raw => [.plain (String.ofList (dropEndWhile (· == '\n') raw.toList))]
  | .quote children | .group children => dropLineEnd (quotedBlocks base [] children)
  | .list _ items => dropLineEnd (quotedItems base [] items)
  | .html raw => [.plain (String.ofList (Html.visibleText raw.toList))]
  | .blank | .rule | .unknown => []

/-- The spans of the blocks of a quote, each on a line of its own, behind those before. -/
def quotedBlocks (base : Option String) (before : List Span) : List Block → List Span
  | [] => before
  | .blank :: rest => quotedBlocks base before rest
  | b :: rest => quotedBlocks base (endLine before ++ quotedBlock base b) rest

/-- The spans of the items of a list in a quote, behind those before. -/
def quotedItems (base : Option String) (before : List Span) : List (List Block) → List Span
  | [] => before
  | own :: rest =>
    quotedItems base (endLine before ++ dropLineEnd (quotedBlocks base [] own)) rest

end

/-- The spans of a quote. -/
def quoteSpans (base : Option String) (children : List Block) : List Span :=
  dropLineEnd (quotedBlocks base [] children)

mutual

/-- The nodes of a block inside `depth` lists. -/
def ofBlock (base : Option String) (depth : Nat) : Block → List Node
  | .heading level children => [.heading level (some (spansOf base children))]
  | .paragraph children => ofParagraph (spansOf base children)
  | .quote children => [.quote (some (quoteSpans base children))]
  | .list ordered items => ofItems base ordered depth items
  | .code info raw => [.code (languageOf info) (codeText raw)]
  | .rule => [.rule]
  | .html raw => ofHtml base raw
  | .blank | .group _ | .unknown => []

/-- The nodes of the items of a list: each item with its leading paragraphs, then
whatever else it holds. -/
def ofItems (base : Option String) (ordered : Bool) (depth : Nat) : List (List Block) → List Node
  | [] => []
  | own :: rest =>
    let (spans, others) := itemParts base depth [] [] own
    .item ordered (some spans) depth :: (others ++ ofItems base ordered depth rest)

/-- The spans and the other nodes of an item, behind those found so far. -/
def itemParts (base : Option String) (depth : Nat) (spans : List Span) (others : List Node) :
    List Block → List Span × List Node
  | [] => (spans, others)
  | b :: rest =>
    match b, others with
    | .paragraph children, [] =>
      itemParts base depth (endLine spans ++ spansOf base children) [] rest
    | b, others => itemParts base depth spans (others ++ ofBlock base (depth + 1) b) rest

end

/-- The nodes of a document. -/
def ofBlocks (base : Option String) (blocks : List Block) : List Node :=
  blocks.flatMap (ofBlock base 0)

mutual

/-- What makes a block unreadable, if anything does. -/
def blockError? (quoted : Bool) : Block → Option Html.ReadError
  | .heading _ children | .paragraph children => Span.readErrors? children
  | .quote children => blockErrors? true children
  | .group children => if quoted then blockErrors? quoted children else none
  | .list _ items => itemErrors? quoted items
  | .html raw => Html.readError? raw.toList
  | .blank | .code .. | .rule | .unknown => none

/-- The first error of blocks. -/
def blockErrors? (quoted : Bool) : List Block → Option Html.ReadError
  | [] => none
  | b :: rest => (blockError? quoted b).or (blockErrors? quoted rest)

/-- The first error of the items of a list. -/
def itemErrors? (quoted : Bool) : List (List Block) → Option Html.ReadError
  | [] => none
  | own :: rest => (blockErrors? quoted own).or (itemErrors? quoted rest)

end

/-- What makes a document unreadable, if anything does. -/
def readError? (blocks : List Block) : Option Html.ReadError := blockErrors? false blocks

end WebClip.Page.Node
