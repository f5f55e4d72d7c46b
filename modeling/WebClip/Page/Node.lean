import WebClip.Page.Span
import WebClip.Value
/-!
# Nodes

A page's content before it is compiled: a flat list of headings, paragraphs, list
items, code, quotes, rules and images. A node made by hand may lack its spans, be a
heading of any level, or be of a kind the compiler does not know.
-/

namespace WebClip.Page

/-- A node of a page. -/
inductive Node where
  | heading (level : Value) (spans : Option (List Span))
  | paragraph (spans : Option (List Span))
  | item (ordered : Bool) (spans : Option (List Span)) (depth : Int)
  | code (language text : String)
  | quote (spans : Option (List Span))
  | rule
  | image (url alt : String)
  | foreign (spans : Option (List Span))

namespace Node

/-- The name of a node's kind. -/
def kindName : Node → String
  | heading .. => "Heading"
  | paragraph _ => "Paragraph"
  | item .. => "ListItem"
  | code .. => "Code"
  | quote _ => "Quote"
  | rule => "Divider"
  | image .. => "InlineImage"
  | foreign _ => "UnknownNode"

/-- The spans of a node; a node without text has an empty list of them. -/
def spans? : Node → Option (List Span)
  | heading _ spans | paragraph spans | item _ spans _ | quote spans | foreign spans => spans
  | code .. | rule | image .. => some []

/-- The text of a node, if it has its spans. -/
def text? : Node → Option String
  | code _ text => some text
  | image _ alt => some alt
  | n => n.spans?.map Span.plainText

/-- The image URLs of a node in order. -/
def imageUrls : Node → List String
  | image url _ => [url]
  | n => (n.spans?.getD []).filterMap (·.image)

/-- Put a URL behind others unless it is empty or among them. -/
def addUrl (urls : List String) (url : String) : List String :=
  if url.isEmpty || urls.contains url then urls else urls ++ [url]

/-- The distinct image URLs of nodes in the order of their first occurrence. -/
def collectUrls (nodes : List Node) : List String :=
  (nodes.flatMap imageUrls).foldl addUrl []

end Node

end WebClip.Page
