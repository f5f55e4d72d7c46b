import WebClip.Article
import WebClip.Bytes.Utf8
import WebClip.Json.Read
import WebClip.Text.LowerCase
/-!
# Articles from files

A JSON file holds an extractor's record. Any other file is markdown, and its title is
the first line that looks like one, or else the file's name.
-/

namespace WebClip.Article

open Text

/-- The place of the last dot in a name, where it parts the name from its ending. -/
def dot? (name : List Char) : Option Nat :=
  let ending := (name.reverse.takeWhile (· != '.')).length
  if 0 < ending && ending + 1 < name.length then some (name.length - ending - 1) else none

/-- A file's name without its directories. -/
def baseName (path : String) : List Char := (splitOn '/' path.toList).getLastD []

/-- The ending of a file's name, with its dot. -/
def ending (path : String) : List Char :=
  match dot? (baseName path) with
  | some i => (baseName path).drop i
  | none => []

/-- A file's name without its ending. -/
def stem (path : String) : String :=
  let name := baseName path
  String.ofList ((dot? name).elim name name.take)

/-- The title that a markdown text gives itself: its first line behind a number sign and a space. -/
def titleIn? (text : List Char) : Option String :=
  ((lines text).find? (startsWith ['#', ' '])).map fun line =>
    String.ofList (trim (line.dropWhile (· == '#')))

/-- The article in a text under a name. -/
def ofText (path : String) (text : String) : Except Fault Article :=
  if lower (ending path) == ".json".toList then
    match Json.read text with
    | .ok (.record fields) => ofFields fields
    | .ok _ => .error Reply.notRecord
    | .error e => .error e.toFault
  else
    let title := (titleIn? text.toList).getD ""
    .ok { title := .text (if title.isEmpty then stem path else title), content := .text text }

/-- An article with a title and a URL of one's own, where they are given. -/
def withOverrides (title url : String) (a : Article) : Article :=
  { a with
    title := if title.isEmpty then a.title else .text title
    url := if url.isEmpty then a.url else .text url }

/-- The article in a file. -/
def ofFile (path : String) (content : ByteArray) (title url : String) : Except Fault Article :=
  match Utf8.decode? content with
  | none => .error .notUtf8
  | some text =>
    (ofText path (String.ofList (unifyNewlines text.toList))).map (withOverrides title url)

end WebClip.Article
