import WebClip.Value
import WebClip.Text.Blank
/-!
# Faults

The clipper's own errors form a small taxonomy with stable codes. Everything else
that can end a step, a malformed reply or a value of the wrong kind, is a fault
beside them.
-/

namespace WebClip

/-- What an error of the clipper is about. -/
inductive ErrorKind where
  | unknown
  | validation
  | download (url : String)
  | upload (url : String)
  | rateLimit
  | auth
  | api
  | notFound
  /-- Blocks were appended to a page only in part: how many were, and which are missing. -/
  | write (page : Value) (appended : Int) (missing : List Value) (pageUrl : Value)

namespace ErrorKind

/-- The name of the error. -/
def name : ErrorKind → String
  | unknown => "ClipperError"
  | validation => "ValidationError"
  | download _ => "DownloadError"
  | upload _ => "UploadError"
  | rateLimit => "RateLimitError"
  | auth => "AuthError"
  | api => "NotionAPIError"
  | notFound => "NotFoundError"
  | write .. => "WriteError"

/-- The stable code of the error. -/
def code : ErrorKind → String
  | unknown => "ERR_UNKNOWN_ERROR"
  | validation => "ERR_VALIDATION"
  | download _ => "ERR_IMG_DOWNLOAD_FAILED"
  | upload _ => "ERR_IMG_UPLOAD_FAILED"
  | rateLimit => "ERR_NOTION_RATE_LIMIT"
  | auth => "ERR_AUTH_UNAUTHORIZED"
  | api => "ERR_NET_REQUEST_FAILED"
  | notFound => "ERR_NOTION_NOT_FOUND"
  | write .. => "ERR_NOTION_WRITE_FAILED"

/-- The message of an error that brings none of its own. -/
def usualMessage : ErrorKind → String
  | unknown => "An unknown error occurred"
  | validation => "Invalid field value"
  | download _ => "Failed to download image"
  | upload _ => "Failed to upload image to Notion"
  | rateLimit => "Notion API rate limit exceeded. Please wait a moment and try again"
  | auth => "Authentication failed. Please check your API key"
  | api => "Network request failed. Please try again"
  | notFound => "The requested resource was not found in Notion"
  | write _ appended missing _ =>
    "Appended " ++ toString appended ++ " blocks, " ++ toString missing.length ++ " blocks missing"

/-- The more general errors an error also is, nearest first. -/
def ancestors : ErrorKind → List String
  | unknown => []
  | notFound => ["NotionAPIError", "ClipperError"]
  | _ => ["ClipperError"]

/-- Whether the error concerns the whole document, so that nothing goes on after it. -/
def stopsAll : ErrorKind → Bool
  | rateLimit | auth => true
  | _ => false

end ErrorKind

/-- An error of the clipper, its message and the HTTP status behind it. -/
structure ClipError where
  kind : ErrorKind
  message : String
  status : Option Int := none

namespace ClipError

/-- An error with a message, or with the usual one when that is empty. -/
def make (kind : ErrorKind) (message : String) (status : Option Int := none) : ClipError :=
  { kind, message := if message.isEmpty then kind.usualMessage else message, status }

/-- The record an error is reported as. -/
def toValue (e : ClipError) : Value :=
  let common : List (String × Value) :=
    [("name", .text e.kind.name), ("code", .text e.kind.code), ("message", .text e.message),
     ("status", match e.status with | some n => .int n | none => .null)]
  match e.kind with
  | .write page appended missing _ => .record (common ++
      [("page_id", page), ("appended", .int appended), ("missing", .int missing.length)])
  | _ => .record common

/-- The error that an HTTP status stands for. -/
def ofStatus (status : Int) (text : String) : ClipError :=
  let trimmed (s : String) : String :=
    String.ofList (Text.dropEndWhile (fun c => c == ':' || c == ' ') s.toList)
  if status = 401 || status = 403 then
    make .auth (trimmed ("Authentication failed: " ++ text)) (some status)
  else if status = 429 then make .rateLimit "" (some status)
  else if status = 404 then make .notFound (trimmed ("Resource not found: " ++ text)) (some status)
  else if status ≥ 500 then
    make .api (Text.strip ("Server error: " ++ toString status ++ " " ++ text)) (some status)
  else if status ≥ 400 then
    make .api (Text.strip ("Request failed: " ++ toString status ++ " " ++ text)) (some status)
  else make .unknown ("Unexpected status: " ++ toString status) (some status)

end ClipError

/-- What ends a step that does not finish. -/
inductive Fault where
  /-- An error of the clipper itself. -/
  | clip (e : ClipError)
  /-- A value outside its range. -/
  | badValue (message : String)
  /-- Something outside broke in a way nobody foresaw. -/
  | crash (message : String)
  /-- A record lacks a key it must have. -/
  | missingKey (key : String)
  /-- An operation met a value of the wrong kind. -/
  | wrongKind (message : String)
  /-- A value lacks what every value of its place has. -/
  | wrongShape (message : String)
  /-- A number is too large for the numbers it is turned into. -/
  | overflow (message : String)
  /-- A text is not JSON. -/
  | notJson
  /-- Bytes are not UTF-8. -/
  | notUtf8
  /-- Markup holds a section that cannot be read. -/
  | badMarkup
  /-- A directory stands where a file is to be written. -/
  | isDirectory
  /-- The attempt was given up after its time. -/
  | timedOut
  /-- As much has been done as may be, and there is more to do. -/
  | unfinished

namespace Fault

/-- The text a diagnostic gives for a fault. -/
def message : Fault → String
  | clip e => e.message
  | badValue m | crash m | wrongKind m | wrongShape m | overflow m => m
  | missingKey key => "'" ++ key ++ "'"
  | notJson | notUtf8 | badMarkup | isDirectory | timedOut | unfinished => ""

end Fault

end WebClip
