import WebClip.Asset
import WebClip.Page.Link
import WebClip.Text.LowerCase
import WebClip.Value.Number
import WebClip.Value.Written
/-!
# Properties

The values of a page's properties, built by type from values nobody has checked. What
a property cannot hold is refused rather than cut to fit, long texts and names apart.
-/

namespace WebClip

/-- The value of a property. -/
inductive Property where
  | title (text : String)
  | richText (text : String)
  | url (url : String)
  | files (name : String) (asset : Asset)
  | checkbox (checked : Bool)
  | select (name : String)
  | multiSelect (names : List String)
  | date (start : String)
  | number (x : Float)
  | email (address : String)
  | phone (number : String)

namespace Property

open Text

/-- The longest name of an option or a file. -/
def maxNameLength : Nat := 100

/-- A text cut to a length. -/
def shorten (limit : Nat) (s : String) : String := String.ofList (s.toList.take limit)

/-- A property's text, which is one run. -/
def textValue (text : String) : Value :=
  .list [.record [("type", .text "text"),
    ("text", .record [("content", .text (shorten Page.maxTextLength text))])]]

/-- The record of a property. -/
def toValue : Property → Value
  | title text => .record [("title", textValue text)]
  | richText text => .record [("rich_text", textValue text)]
  | url u => .record [("url", .text u)]
  | files name asset => .record [("files", .list
      [.record (("name", .text (shorten maxNameLength name)) :: asset.toFile.fields)])]
  | checkbox b => .record [("checkbox", .bool b)]
  | select name => .record [("select", .record [("name", .text name)])]
  | multiSelect names =>
    .record [("multi_select", .list (names.map fun n => .record [("name", .text n)]))]
  | date start => .record [("date", .record [("start", .text start)])]
  | number x => .record [("number", .float x)]
  | email a => .record [("email", .text a)]
  | phone n => .record [("phone_number", .text n)]

/-- The fault of a value that a property cannot hold. -/
def refused (message : String) : Fault := .clip (.make .validation message)

/-- Whether there is nothing to set. -/
def isNothing : Value → Bool
  | .null => true
  | .text s => s.isEmpty
  | .list items => items.isEmpty
  | _ => false

/-- Whether a value ticks a box. A text does in a few spellings only. -/
def isChecked : Value → Bool
  | .text s =>
    ["1", "true", "yes", "on"].contains (String.ofList (lower (trim s.toList)))
  | v => v.truthy

/-- The name of an option. -/
def optionName (v : Value) : Except Fault String := do
  let name := strip (← v.written)
  if name.isEmpty then throw (refused "Empty option name") else pure (shorten maxNameLength name)

/-- The options of a value: the items of a list, or the value alone. -/
def options : Value → List Value
  | .list items => items
  | v => [v]

/-- The names of options. Nothing and blank texts name none. -/
def optionNames : List Value → Except Fault (List String)
  | [] => pure []
  | .null :: rest => optionNames rest
  | v :: rest => do
    if blank (← v.written) then optionNames rest
    else
      let name ← optionName v
      pure (name :: (← optionNames rest))

/-- A file that is in an upload or can be shown from its URL. -/
def file (asset : Asset) : Except Fault (Option Property) :=
  if asset.isUploaded || asset.value.any Page.isEmbeddable then .ok (some (.files "image" asset))
  else .error (refused ("Unusable file URL (" ++ toString (asset.value.getD "").length ++ " chars)"))

/-- A number. -/
def numberOf (v : Value) : Except Fault (Option Property) :=
  match v.toFloat with
  | .ok x => .ok (some (.number x))
  | .error (.overflow m) => .error (.overflow m)
  | .error _ => do throw (refused ("Not a number: " ++ (← v.writtenQuoted)))

/-- The value of a property of a type, or nothing where there is nothing to set. -/
def build (assets : Assets) (type value : Value) : Except Fault (Option Property) :=
  if type.text? = some "checkbox" then .ok (some (.checkbox (isChecked value)))
  else if isNothing value then .ok none
  else
    match type.text?.getD "" with
    | "title" => do pure (some (.title (← value.written)))
    | "rich_text" => do pure (some (.richText (← value.written)))
    | "url" => do
      let url ← value.written
      if url.length > Page.maxUrlLength then
        throw (refused ("URL longer than " ++ toString Page.maxUrlLength ++ " characters"))
      else pure (some (.url url))
    | "files" => do
      let url ← value.written
      file ((assets.lookup url).getD (.external url))
    | "select" => do pure (some (.select (← optionName ((options value).headD .null))))
    | "multi_select" => do
      let names ← optionNames (options value)
      pure (if names.isEmpty then none else some (.multiSelect names))
    | "date" => do pure (some (.date (← value.written)))
    | "number" => numberOf value
    | "email" => do
      let address ← value.written
      if address.toList.contains '@' then pure (some (.email address))
      else throw (refused ("Not an email address: " ++ (← value.writtenQuoted)))
    | "phone_number" => do pure (some (.phone (← value.written)))
    | _ => do throw (refused ("Unsupported property type: " ++ (← type.written)))

end Property

end WebClip
