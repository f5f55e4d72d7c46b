import WebClip.Asset
import WebClip.Page.Run
/-!
# Blocks

The blocks of a page as the service takes them.
-/

namespace WebClip.Page

/-- Where an image block finds its image. -/
inductive Target where
  | upload (id : String)
  | external (url : String)
  deriving DecidableEq

/-- A block of a page. -/
inductive Block where
  | heading (level : Int) (text : List Run)
  | paragraph (text : List Run)
  | item (ordered : Bool) (text : List Run)
  | code (language : String) (text : List Run)
  | quote (text : List Run)
  | divider
  | image (target : Target) (caption : List Run)
  deriving DecidableEq

/-- The record of a text's formatting. -/
def Marks.toValue (m : Marks) : Value :=
  .record [("bold", .bool m.bold), ("italic", .bool m.italic),
    ("strikethrough", .bool m.strikethrough), ("underline", .bool false), ("code", .bool m.code),
    ("color", .text "default")]

/-- The record of a run. -/
def Run.toValue (r : Run) : Value :=
  let link : List (String × Value) := match r.link with
    | none => []
    | some url => if url.isEmpty then [] else [("link", .record [("url", .text url)])]
  .record [("type", .text "text"), ("text", .record (("content", .text r.content) :: link)),
    ("annotations", r.marks.toValue)]

namespace Block

/-- The name of a block's kind. -/
def kindName : Block → String
  | heading level _ => "heading_" ++ toString level
  | paragraph _ => "paragraph"
  | item ordered _ => if ordered then "numbered_list_item" else "bulleted_list_item"
  | code .. => "code"
  | quote _ => "quote"
  | divider => "divider"
  | image .. => "image"

/-- The runs of a block, those of a caption included. -/
def runs : Block → List Run
  | heading _ text | paragraph text | item _ text | code _ text | quote text | image _ text => text
  | divider => []

/-- The rich text of a record. -/
def richText (runs : List Run) : Value := .list (runs.map Run.toValue)

/-- What the record of a block holds under the name of its kind. -/
def body : Block → Value
  | heading _ text | paragraph text | item _ text | quote text =>
    .record [("rich_text", richText text)]
  | code language text => .record [("rich_text", richText text), ("language", .text language)]
  | divider => .record []
  | image (.upload id) caption =>
    .record [("type", .text "file_upload"), ("file_upload", .record [("id", .text id)]),
      ("caption", richText caption)]
  | image (.external url) caption =>
    .record [("type", .text "external"), ("external", .record [("url", .text url)]),
      ("caption", richText caption)]

/-- The record of a block. -/
def toValue (b : Block) : Value := .record [("type", .text b.kindName), (b.kindName, b.body)]

/-- Whether the block is an image. -/
def isImage : Block → Bool
  | image .. => true
  | _ => false

/-- Whether the block is an image in an upload. -/
def isUpload : Block → Bool
  | image (.upload _) _ => true
  | _ => false

end Block

end WebClip.Page
