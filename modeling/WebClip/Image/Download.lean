import WebClip.Bytes.Base64
import WebClip.Bytes.Percent
import WebClip.MediaType
import WebClip.Session
import WebClip.Text.Digit
import WebClip.Text.LowerCase
import WebClip.Url.Parts
import WebClip.Value.Number
/-!
# Downloads

An image is fetched from its host, or decoded from the URL itself, if it is an image
and not too large. A download that fails says why.
-/

namespace WebClip

open Text

/-- A downloaded image. -/
structure Download where
  url : String
  content : ByteArray
  contentType : String
  fileName : String

namespace Download

/-- What a clipper calls itself when it asks the server of an image. -/
def userAgent : String := "Mozilla/5.0 (compatible; notion-clipper)"

/-- The fault of a download that fails. -/
def failed (url message : String) (status : Option Int := none) : Fault :=
  .clip (.make (.download url) message status)

/-- The start of a URL, as messages show it. -/
def shown (url : String) : String := String.ofList (url.toList.take 80)

/-- Whether a size is beyond a limit, which must be a number. -/
def exceeds (size : Nat) (limit : Value) : Except Fault Bool :=
  match limit with
  | .int n => .ok (n < size)
  | .bool b => .ok ((if b then 1 else 0) < size)
  | .float x => .ok (x < Float.ofNat size)
  | _ => .error (.wrongKind "not a number of bytes")

/-- The fault of an image that is too large. -/
def tooLarge (url : String) (limit : Value) : Fault :=
  failed url ("Image too large (max " ++ limit.display ++ " bytes)")

/-! ## Images in URLs -/

/-- The content of the payload of a data URL. -/
def payloadContent (isBase64 : Bool) (payload : List Char) : Except String ByteArray :=
  if isBase64 then
    match Base64.decode payload with
    | .ok bytes => .ok bytes.toByteArray
    | .error e => .error e.message
  else .ok (Percent.decode payload).toByteArray

/-- The image in a data URL. -/
def ofData (limit : Value) (url : String) : Except Fault Download :=
  match cutAt ',' (url.toList.drop 5) with
  | (_, none) => .error (failed url "Malformed data URI")
  | (header, some payload) =>
    let params := splitOn ';' header
    let type := params.headD []
    let contentType :=
      String.ofList (lower (if type.isEmpty then MediaType.usual.toList else type))
    if !MediaType.isImage contentType then .error (failed url ("Not an image: " ++ contentType))
    else
      match payloadContent (params.tail.contains "base64".toList) payload with
      | .error e => .error (failed url ("Undecodable data URI: " ++ e))
      | .ok content =>
        match exceeds content.size limit with
        | .error e => .error e
        | .ok true => .error (tooLarge url limit)
        | .ok false =>
          .ok { url, content, contentType, fileName := MediaType.fileName url contentType }

/-! ## Images of hosts -/

/-- The length that a reply declares, if it is a number. -/
def declared? (r : HttpReply) : Option String :=
  (r.header? "content-length").filter fun n => !n.isEmpty && n.toList.all isDigitLike

/-- The media type that a reply declares, without its parameters. -/
def declaredType (r : HttpReply) : String :=
  String.ofList (lower (trim (cutAt ';' ((r.header? "content-type").getD "").toList).1))

/-- The chunks of a body put behind what has come already, unless they grow too large. -/
def gather (url : String) (limit : Value) : ByteArray → List ByteArray → Except Fault ByteArray
  | content, [] => .ok content
  | content, chunk :: rest =>
    match exceeds (content.size + chunk.size) limit with
    | .error e => .error e
    | .ok true => .error (tooLarge url limit)
    | .ok false => gather url limit (content ++ chunk) rest

/-- Refuse a reply that declares too great a length. -/
def checkLength (url : String) (limit : Value) (r : HttpReply) : Except Fault Unit :=
  match declared? r with
  | none => .ok ()
  | some n =>
    match (Value.text n).toInt with
    | .error e => .error (failed url ("Malformed image URL: " ++ e.message))
    | .ok size =>
      match exceeds size.toNat limit with
      | .error e => .error e
      | .ok true => .error (failed url ("Image too large (" ++ n ++ " bytes, max " ++
          limit.display ++ ")"))
      | .ok false => .ok ()

/-- Whether a media type may be one of an image. -/
def mayBeImage (type : String) : Bool :=
  type.isEmpty || MediaType.isImage type || MediaType.generic.contains type

/-- The chunks in which the body of a reply comes: none of them is empty. -/
def received (r : HttpReply) : List ByteArray := r.chunks.filter fun chunk => !chunk.isEmpty

/-- The image in a reply. -/
def ofReply (limit : Value) (url : String) (r : HttpReply) : Except Fault Download := do
  if r.status ≥ 400 then throw (failed url ("HTTP " ++ toString r.status) (some r.status))
  checkLength url limit r
  let type := declaredType r
  if !mayBeImage type then throw (failed url ("Not an image: " ++ type))
  let content ← gather url limit ByteArray.empty (received r)
  let contentType := if MediaType.isImage type then type else MediaType.guess url
  pure { url, content, contentType, fileName := MediaType.fileName url contentType }

/-- The fault of a fetch that fails. -/
def ofFailure (timeout : Value) (url : String) : Failure → Fault
  | .slow _ => failed url ("Timed out after " ++ timeout.display ++ "s")
  | .broken text | .refused _ text => failed url ("Request failed: " ++ text)
  | .timedOut => failed url "Request failed: "
  | .badValue text => failed url ("Malformed image URL: " ++ text)
  | .clip e => .clip e
  | .crash text => .crash text

/-! ## Fetching -/

/-- Where a reply sends on to. -/
def redirection? (r : HttpReply) : Option String :=
  if [301, 302, 303, 307, 308].contains r.status then r.header? "location" else none

/-- The most times that a reply may send on. -/
def maxRedirects : Nat := 20

variable {σ τ : Type}

/-- Fetch a URL and whatever it sends on to. -/
def fetchFrom : Nat → String → Act σ τ (Response HttpReply)
  | n, url => do
    match ← Act.fetch url with
    | .answer r =>
      match redirection? r with
      | none => pure (.answer r)
      | some location =>
        match n with
        | 0 => pure (.failure (.broken "Exceeded maximum allowed redirects."))
        | n + 1 =>
          match Url.join url.toList location.toList with
          | .ok next => fetchFrom n (String.ofList next)
          | .error e =>
            pure (.failure (.broken ("Invalid URL in location header: " ++ e.message ++ ".")))
    | response => pure response

/-- What is wrong with the URL of an image that is to be fetched. -/
def urlError? (url : String) : Option String :=
  match Url.read [] url.toList with
  | .error e => some ("Malformed image URL: " ++ e.message)
  | .ok parts =>
    if parts.scheme == "http".toList || parts.scheme == "https".toList then none
    else some ("Unsupported image URL: " ++ shown url)

/-- Download an image. -/
def run (url : String) : Act σ τ Download := do
  let settings := (← read).settings
  if startsWith "data:".toList url.toList then Act.orFault (ofData settings.maxImageBytes url)
  else match urlError? url with
    | some message => throw (failed url message)
    | none =>
      match ← fetchFrom maxRedirects url with
      | .answer r => Act.orFault (ofReply settings.maxImageBytes url r)
      | .failure f => throw (ofFailure settings.downloadTimeout url f)
      | .silence => throw .timedOut

end Download

end WebClip
