import WebClip.Mapping
/-!
# Mappings guessed from a schema

Which field of an article feeds a property, judged by the property's type and by
words in its name.
-/

namespace WebClip.Mapping

open Text

/-- Words in the name of a property for the content of an article. -/
def contentWords : List String := ["content", "body", "article", "text", "内容", "正文"]

/-- Words in the name of a property for the main image. -/
def imageWords : List String := ["cover", "image", "main_image", "thumbnail", "封面", "图片"]

/-- Words in the name of a property for the tags. -/
def tagWords : List String := ["tag", "tags", "category", "categories", "标签", "分类"]

/-- Words in the name of a property for the author. -/
def authorWords : List String := ["author", "username", "creator", "作者"]

/-- Words in the name of a property for the date. -/
def dateWords : List String := ["date", "published_date", "create_date", "日期"]

/-- Whether a name, in lower case, contains one of some words. -/
def mentions (words : List String) (name : String) : Bool :=
  let name := lower name.toList
  words.any fun w => occursIn w.toList name

/-- The field of an article that feeds a property. -/
def sourceFor (name : String) (type : Value) : Option String :=
  match type.text?.getD "" with
  | "title" => some "title"
  | "url" => some "url"
  | "rich_text" =>
    if mentions contentWords name then some "content"
    else if mentions authorWords name then some "author" else none
  | "files" => if mentions imageWords name then some "main_image" else none
  | "select" | "multi_select" => if mentions tagWords name then some "tags" else none
  | "date" => if mentions dateWords name then some "publish_date" else none
  | _ => none

/-- The mapping guessed from the properties of a database and their types. -/
def ofSchema (schema : List (String × Value)) : Mapping :=
  schema.filterMap fun (name, type) => (sourceFor name type).map fun field =>
    (name, { propertyName := .text name, propertyType := type, sourceField := .text field })

end WebClip.Mapping
