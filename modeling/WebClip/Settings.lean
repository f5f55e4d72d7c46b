import WebClip.Notice
import WebClip.Service.Reply
/-!
# Settings

What can be tuned. A settings file may hold any value under a name, and nobody checks it
before it is used.
-/

namespace WebClip

/-- The settings. -/
structure Settings where
  downloadImages : Value := .bool true
  downloadTimeout : Value := .float 15.0
  maxImageBytes : Value := .int 5242880
  downloadConcurrency : Value := .int 3
  uploadTimeout : Value := .float 30.0
  uploadPollAttempts : Value := .int 3
  uploadPollInterval : Value := .float 1.0
  requestsPerMinute : Value := .int 180
  saveTimeout : Value := .float 30.0
  migrateImages : Value := .bool true
  notionVersion : Value := .text "2022-06-28"

namespace Settings

/-- The settings by name, in order. -/
def fields (s : Settings) : List (String × Value) :=
  [("download_images", s.downloadImages),
   ("download_timeout", s.downloadTimeout),
   ("max_image_bytes", s.maxImageBytes),
   ("download_concurrency", s.downloadConcurrency),
   ("upload_timeout", s.uploadTimeout),
   ("upload_poll_attempts", s.uploadPollAttempts),
   ("upload_poll_interval", s.uploadPollInterval),
   ("requests_per_minute", s.requestsPerMinute),
   ("save_timeout", s.saveTimeout),
   ("migrate_images", s.migrateImages),
   ("notion_version", s.notionVersion)]

/-- The names of the settings. -/
def names : List String := (fields {}).map (·.1)

/-- The settings that a record gives, with the usual value for each one missing. -/
def ofFields (given : List (String × Value)) : Settings :=
  let usual : Settings := {}
  let pick (name : String) (default : Value) : Value := (given.lookup name).getD default
  { downloadImages := pick "download_images" usual.downloadImages
    downloadTimeout := pick "download_timeout" usual.downloadTimeout
    maxImageBytes := pick "max_image_bytes" usual.maxImageBytes
    downloadConcurrency := pick "download_concurrency" usual.downloadConcurrency
    uploadTimeout := pick "upload_timeout" usual.uploadTimeout
    uploadPollAttempts := pick "upload_poll_attempts" usual.uploadPollAttempts
    uploadPollInterval := pick "upload_poll_interval" usual.uploadPollInterval
    requestsPerMinute := pick "requests_per_minute" usual.requestsPerMinute
    saveTimeout := pick "save_timeout" usual.saveTimeout
    migrateImages := pick "migrate_images" usual.migrateImages
    notionVersion := pick "notion_version" usual.notionVersion }

/-- The settings that a value gives, which must be a record. -/
def ofValue (v : Value) : Except Fault Settings :=
  match v with
  | .record given => .ok (ofFields given)
  | .text _ | .list _ => .error Reply.notRecord
  | _ => .error (.wrongKind "not a record")

/-- What is told of names that are no settings. -/
def notices (v : Value) : List Notice :=
  let unknown := (v.fields.map (·.1)).filter fun name => !names.contains name
  if unknown.isEmpty then []
  else
    let sorted := unknown.eraseDups.mergeSort fun a b => a ≤ b
    [.warning ("Ignoring unknown settings: " ++ ", ".intercalate sorted)]

end Settings

end WebClip
