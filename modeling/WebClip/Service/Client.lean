import WebClip.Bytes.Utf8
import WebClip.Chunk
import WebClip.Json.Read
import WebClip.Service.Reply
import WebClip.Session
import WebClip.Value.Display
/-!
# The service

What the clipper does with the service: list databases, read a schema, create pages and
append to them, walk and change blocks, and move files into uploads. Every request is
admitted by the budget before it is made.
-/

namespace WebClip.Service

open WebClip.Act

variable {σ τ : Type} [Clock τ]

/-! ## Databases -/

/-- What is shown of a database that a search has found. -/
def databaseOf (found : Value) : Except Fault Value := do
  let title := (← Reply.get found "title").orElse (.list [])
  let id ← Reply.require found "id"
  let title ← match title with
    | .list [] => pure (.text "Untitled")
    | .list (first :: _) => Reply.getD first "plain_text" (.text "Untitled")
    | .record _ => throw (.missingKey "0")
    | .text _ => throw Reply.notRecord
    | _ => throw (.wrongKind "not a list")
  pure (.record [("id", id), ("title", title), ("icon", ← Reply.get found "icon")])

/-- The databases shared with the clipper. -/
def databases : Act σ τ (List Value) := do
  let reply ← ask .search
  orFault do
    let results ← Reply.getD reply "results" (.list [])
    (← Reply.iterate results).mapM databaseOf

/-- The properties of a database and their types. -/
def schema (database : Value) : Act σ τ (List (String × Value)) := do
  let reply ← ask (.database database)
  orFault do
    match ← Reply.getD reply "properties" (.record []) with
    | .record properties => properties.mapM fun (name, p) => do pure (name, ← Reply.get p "type")
    | _ => throw Reply.notRecord

/-! ## Pages and blocks -/

/-- How many children a page is to be created with. -/
def childCount (page : Value) : Except Fault Nat := do
  match ← Reply.getD page "children" (.list []) with
  | .list items => pure items.length
  | .text s => pure s.length
  | .record fields => pure fields.length
  | _ => throw (.wrongKind "not a list")

/-- Do something and tell of the error of the clipper it ends in, if it does. -/
def telling {α : Type} (failed : ClipError → String) (a : Act σ τ α) : Act σ τ α := do
  match ← attempt a with
  | .ok x => pure x
  | .error (.clip e) =>
    tell (.error (failed e))
    throw (.clip e)
  | .error e => throw e

/-- Create a page. -/
def createPage (page : Value) : Act σ τ Value := do
  let count ← orFault (childCount page)
  if count > maxBatch then
    throw (.badValue ("Create request carries " ++ toString count ++ " children (max " ++
      toString maxBatch ++ ")"))
  let created ← telling (fun e => "Failed to create Notion page: " ++ e.message)
    (ask (.createPage page))
  let id ← orFault (Reply.require created "id")
  tell (.info ("Created Notion page: " ++ id.display))
  pure created

/-- Append batches one after another. The first that fails ends it, and its error tells how
many blocks were appended before and which are missing. -/
def appendBatches (id : Value) (total : Nat) : Nat → List (List Value) → Act σ τ Nat
  | appended, [] => pure appended
  | appended, batch :: rest => do
    match ← attempt (ask (.append id batch)) with
    | .ok _ => appendBatches id total (appended + batch.length) rest
    | .error (.clip e) =>
      tell (.error ("Failed to append blocks after " ++ toString appended ++ "/" ++
        toString total ++ ": " ++ e.message))
      throw (.clip (.make (.write id appended (batch ++ rest.flatten) .null) e.message))
    | .error e => throw e

/-- Append blocks to a page or block, and count them. -/
def append (id : Value) (blocks : List Value) : Act σ τ Nat :=
  appendBatches id blocks.length 0 (chunks maxBatch blocks)

/-- A part of the children of a block. -/
def children (id : Value) (cursor : Value) (pageSize : Value := .int maxBatch) : Act σ τ Value :=
  ask (.children id pageSize cursor)

/-- Change a block. -/
def update (id : Value) (payload : List (String × Value)) : Act σ τ Value := ask (.update id payload)

/-! ## Uploads -/

/-- An upload under way. -/
structure Upload where
  id : Value
  status : Value := .text "pending"

namespace Upload

/-- Whether the file has arrived. -/
def isDone (u : Upload) : Bool := u.status.text? = some "uploaded"

/-- Whether the file will never arrive. -/
def hasFailed (u : Upload) : Bool := u.status.text? = some "failed"

end Upload

/-- The value that a body holds. -/
def decoded (body : ByteArray) : Except Fault Value :=
  match Utf8.decode? body with
  | none => .error .notUtf8
  | some text =>
    match Json.read text with
    | .ok v => .ok v
    | .error e => .error e.toFault

/-- Ask the service about an upload. -/
def askUpload (r : UploadRequest) : Act σ τ Value := do
  spend r.label
  let c ← read
  if c.settings.notionVersion.text?.isNone then throw (.wrongKind "no version")
  log (.uploaded r)
  let s ← get
  let (response, outside) := c.outside.upload r s.outside
  set { s with outside }
  let reply ← answerOf r.label response
  if reply.status < 200 || reply.status ≥ 300 then
    throw (.clip (.ofStatus reply.status (Utf8.lenient reply.body)))
  orFault (decoded reply.body)

/-- An upload with the status that a reply gives it, if any. -/
def withStatus (u : Upload) (reply : Value) : Except Fault Upload := do
  pure { u with status := ← Reply.getD reply "status" u.status }

/-- Start an upload. -/
def createUpload (fileName contentType : String) : Act σ τ Upload := do
  let reply ← askUpload (.create fileName contentType)
  orFault do withStatus { id := ← Reply.require reply "id" } reply

/-- Send the content of an upload. -/
def sendUpload (u : Upload) (fileName contentType : String) (content : ByteArray) :
    Act σ τ Upload := do
  orFault (withStatus u (← askUpload (.send u.id fileName contentType content)))

/-- Ask for the status of an upload at most `n` times, until it has arrived or failed. -/
def poll (interval : Value) : Nat → Upload → Act σ τ Upload
  | 0, u => pure u
  | n + 1, u => do
    if u.isDone || u.hasFailed then pure u
    else
      sleep interval
      poll interval n (← orFault (withStatus u (← askUpload (.retrieve u.id))))

/-- How often to ask for the status of an upload. -/
def pollAttempts (v : Value) : Except Fault Nat :=
  match v with
  | .int n => .ok n.toNat
  | .bool b => .ok (if b then 1 else 0)
  | .float x => .ok x.ceil.toUInt64.toNat
  | _ => .error (.wrongKind "not a number of attempts")

/-- Move a file into an upload, and answer with the upload's id once it has arrived. -/
def upload (url fileName contentType : String) (content : ByteArray) : Act σ τ Value := do
  let u ← createUpload fileName contentType
  let u ← sendUpload u fileName contentType content
  let settings := (← read).settings
  let attempts ← if u.isDone then pure 0 else orFault (pollAttempts settings.uploadPollAttempts)
  let u ← poll settings.uploadPollInterval attempts u
  if u.isDone then pure u.id
  else throw (.clip (.make (.upload url) ("Upload " ++ u.id.display ++ " not confirmed (status=" ++
    u.status.display ++ ")")))

end WebClip.Service
