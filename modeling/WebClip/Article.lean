import WebClip.Service.Reply
import WebClip.Value.Display
/-!
# Articles

What an extractor hands over: a title, the content as markdown, and what is known
beside it. Nobody checks the types of the single fields, so they are kept as values.
-/

namespace WebClip

/-- An image the extractor found. -/
structure ArticleImage where
  src : Value
  alt : Value := .null
  width : Value := .null
  height : Value := .null

/-- An article. -/
structure Article where
  title : Value := .text "Untitled"
  content : Value := .text ""
  url : Value := .text ""
  mainImage : Value := .null
  favicon : Value := .null
  images : List ArticleImage := []
  excerpt : Value := .null
  author : Value := .null
  publishDate : Value := .null
  domain : Value := .null
  tags : List Value := []

namespace ArticleImage

/-- An image as it is shown where a text is wanted. -/
def shown (i : ArticleImage) : Value :=
  .shown ("ExtractedImage(src=" ++ i.src.quoted ++ ", alt=" ++ i.alt.quoted ++ ", width=" ++
    i.width.quoted ++ ", height=" ++ i.height.quoted ++ ")")

/-- The image that a record describes; one without a source is passed over. -/
def ofValue? (v : Value) : Except Fault (Option ArticleImage) := do
  let src ← Reply.get v "src"
  if src.truthy then
    pure (some { src, alt := ← Reply.get v "alt", width := ← Reply.get v "width"
                 height := ← Reply.get v "height" })
  else pure none

end ArticleImage

namespace Article

/-- The name of a field; three of them have a second one. -/
def fieldName (key : String) : String :=
  if key = "mainImage" then "main_image"
  else if key = "authorName" then "author"
  else if key = "publishDate" then "publish_date"
  else key

/-- The last value given for a field. -/
def given? (fields : List (String × Value)) (name : String) : Option Value :=
  (fields.reverse.find? fun f => fieldName f.1 == name).map (·.2)

/-- The tags of an article: one text is one tag. -/
def tagsOf (v : Value) : Except Fault (List Value) :=
  match v.orElse (.list []) with
  | .text s => .ok [.text s]
  | v => Reply.iterate v

/-- The article that an extractor's record describes. -/
def ofFields (fields : List (String × Value)) : Except Fault Article := do
  let field (name : String) : Value := (given? fields name).getD .null
  let images ← Reply.iterate ((field "images").orElse (.list []))
  let images ← images.filterMapM ArticleImage.ofValue?
  let tags ← tagsOf (field "tags")
  pure
    { title := (given? fields "title").getD (.text "Untitled")
      content := (given? fields "content").getD (.text "")
      url := (given? fields "url").getD (.text "")
      mainImage := field "main_image"
      favicon := field "favicon"
      images
      excerpt := field "excerpt"
      author := field "author"
      publishDate := field "publish_date"
      domain := field "domain"
      tags }

/-- What an article has under the name of a field. -/
def get (a : Article) (name : String) : Value :=
  match fieldName name with
  | "title" => a.title
  | "content" => a.content
  | "url" => a.url
  | "main_image" => a.mainImage
  | "favicon" => a.favicon
  | "images" => .list (a.images.map ArticleImage.shown)
  | "excerpt" => a.excerpt
  | "author" => a.author
  | "publish_date" => a.publishDate
  | "domain" => a.domain
  | "tags" => .list a.tags
  | _ => .null

/-- The names of the fields, in order. -/
def fieldNames : List String :=
  ["title", "content", "url", "main_image", "favicon", "images", "excerpt", "author",
    "publish_date", "domain", "tags"]

/-- An article with another value under the name of a field that is kept as a value. -/
def set (a : Article) (name : String) (v : Value) : Article :=
  match name with
  | "title" => { a with title := v }
  | "content" => { a with content := v }
  | "url" => { a with url := v }
  | "main_image" => { a with mainImage := v }
  | "favicon" => { a with favicon := v }
  | "excerpt" => { a with excerpt := v }
  | "author" => { a with author := v }
  | "publish_date" => { a with publishDate := v }
  | "domain" => { a with domain := v }
  | "tags" => { a with tags := v.items }
  | _ => a

/-- The description of the image at a URL, empty if there is none. -/
def altFor (a : Article) (src : String) : Value :=
  match a.images.find? fun i => i.src.text? = some src && i.alt.truthy with
  | some i => i.alt
  | none => .text ""

end Article

end WebClip
