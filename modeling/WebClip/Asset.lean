import WebClip.Value
/-!
# Assets

Where the content of an image lives once it has been looked after: in an upload of
the service or at its own URL.
-/

namespace WebClip

/-- Where an image lives. -/
inductive AssetKind where
  | uploaded
  | external
  | unresolved
  deriving DecidableEq, Inhabited

namespace AssetKind

/-- The name of a kind. -/
def name : AssetKind → String
  | uploaded => "uploaded"
  | external => "external"
  | unresolved => "unresolved"

/-- The kind of a name. -/
def ofName? (s : String) : Option AssetKind :=
  [uploaded, external, unresolved].find? (·.name == s)

end AssetKind

/-- Why an image stayed at its own URL: the stage that failed, and how. -/
structure Degraded where
  stage : String
  reason : String
  deriving DecidableEq, Inhabited

/-- What became of the image at a URL. The value is the id of an upload or a URL. -/
structure Asset where
  sourceUrl : String
  kind : AssetKind := .unresolved
  value : Option String := none
  degraded : Option Degraded := none
  deriving DecidableEq, Inhabited

namespace Asset

/-- An image in an upload. -/
def uploaded (url id : String) : Asset :=
  { sourceUrl := url, kind := .uploaded, value := some id }

/-- An image at its own URL. -/
def external (url : String) (degraded : Option Degraded := none) : Asset :=
  { sourceUrl := url, kind := .external, value := some url, degraded }

/-- Whether the image is in an upload. -/
def isUploaded (a : Asset) : Bool := a.kind = .uploaded

/-- Whether it is known where the image lives. -/
def isResolved (a : Asset) : Bool := a.kind ≠ .unresolved && a.value.any (!·.isEmpty)

/-- The file object that icons, covers and files properties take. -/
def toFile (a : Asset) : Value :=
  let value : Value := match a.value with
    | some v => .text v
    | none => .null
  if a.isUploaded then
    .record [("type", .text "file_upload"), ("file_upload", .record [("id", value)])]
  else .record [("type", .text "external"), ("external", .record [("url", value)])]

end Asset

/-- What is known of images by URL. -/
abbrev Assets := List (String × Asset)

end WebClip
