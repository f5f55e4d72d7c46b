import WebClip.Fault
import WebClip.Value.Display
/-!
# Requests

What the clipper asks of the service, what can go wrong with it, and which error each
failure counts as.
-/

namespace WebClip

/-- A request to the service. -/
inductive Request where
  /-- The databases shared with the clipper, last edited first. -/
  | search
  | database (id : Value)
  | createPage (page : Value)
  | append (id : Value) (children : List Value)
  /-- A part of the children of a block, from a cursor on unless that is empty. -/
  | children (id pageSize cursor : Value)
  | update (id : Value) (payload : List (String × Value))

/-- A request to move a file into an upload of the service. -/
inductive UploadRequest where
  | create (fileName contentType : String)
  | send (id : Value) (fileName contentType : String) (content : ByteArray)
  | retrieve (id : Value)

/-- The name of a request in messages. -/
def Request.label : Request → String
  | search => "search"
  | database _ => "databases.retrieve"
  | createPage _ => "pages.create"
  | append .. => "blocks.children.append"
  | children .. => "blocks.children.list"
  | update .. => "blocks.update"

/-- The name of a request in messages. -/
def UploadRequest.label : UploadRequest → String
  | create .. => "file_uploads.create"
  | send .. => "file_uploads.send"
  | retrieve _ => "file_uploads.retrieve"

/-- What a request gives the service. -/
def Request.arguments : Request → Value
  | search => .record [
      ("filter", .record [("property", .text "object"), ("value", .text "database")]),
      ("sort", .record [("direction", .text "descending"), ("timestamp", .text "last_edited_time")])]
  | database id => id
  | createPage page => page
  | append id blocks => .record [("id", id), ("children", .list blocks)]
  | children id pageSize cursor =>
    .record ([("id", id), ("page_size", pageSize)] ++
      if cursor.truthy then [("start_cursor", cursor)] else [])
  | update id payload => .record (ofPairs (("id", id) :: payload))

namespace UploadRequest

/-- The HTTP method of a request. -/
def method : UploadRequest → String
  | create .. | send .. => "POST"
  | retrieve _ => "GET"

/-- Where uploads are. -/
def base : String := "https://api.notion.com/v1/file_uploads"

/-- The URL of a request. -/
def url : UploadRequest → String
  | create .. => base
  | send id .. => base ++ "/" ++ id.display ++ "/send"
  | retrieve id => base ++ "/" ++ id.display

/-- The content type of a request that has a body. -/
def contentType? : UploadRequest → Option String
  | create .. => some "application/json"
  | send .. => some "multipart/form-data"
  | retrieve _ => none

/-- What the body of a request says; a file speaks for itself. -/
def payload : UploadRequest → Value
  | create fileName contentType => .record [("filename", .text fileName),
      ("content_type", .text contentType), ("mode", .text "single_part")]
  | send .. | retrieve _ => .null

end UploadRequest

/-- What can go wrong with a request. -/
inductive Failure where
  /-- It was answered with a status that means failure. -/
  | refused (status : Int) (text : String)
  /-- The service did not answer in time. -/
  | timedOut
  /-- The connection broke. -/
  | broken (text : String)
  /-- The connection was too slow. -/
  | slow (text : String)
  /-- It failed with an error of the clipper itself. -/
  | clip (e : ClipError)
  /-- It could not be made from the values given. -/
  | badValue (text : String)
  /-- Something broke in a way nobody foresaw. -/
  | crash (text : String)

/-- What comes of a request: an answer, a failure, or nothing ever. -/
inductive Response (α : Type) where
  | answer (a : α)
  | failure (f : Failure)
  | silence

/-- The fault that a failed request to the service ends in. -/
def Failure.toFault (label : String) : Failure → Fault
  | refused status text => .clip (.ofStatus status text)
  | timedOut => .clip (.make .api (label ++ " timed out"))
  | broken text | slow text => .clip (.make .api (label ++ " failed: " ++ text))
  | clip e => .clip e
  | badValue text => .badValue text
  | crash text => .crash text

/-- What a server answers over HTTP; a body comes in chunks. -/
structure HttpReply where
  status : Int := 200
  headers : List (String × String) := []
  chunks : List ByteArray := []

namespace HttpReply

/-- What a header says, whatever the case of its name. -/
def header? (name : String) (r : HttpReply) : Option String :=
  (r.headers.find? fun h => h.1.map Char.toLower == name).map (·.2)

/-- The whole body. -/
def body (r : HttpReply) : ByteArray := r.chunks.foldl (· ++ ·) ByteArray.empty

end HttpReply

end WebClip
