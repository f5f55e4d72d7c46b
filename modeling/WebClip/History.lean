import WebClip.File
import WebClip.Json.Read
import WebClip.Json.Write
import WebClip.Notice
import WebClip.Service.Reply
/-!
# Clip histories

What has been saved where, in a JSON file: under each source the last clip of it, and
the database used last. A file that cannot be read counts as an empty history.
-/

namespace WebClip

/-- One saved article. -/
structure Clip where
  sourceUrl : Value
  pageId : Value
  pageUrl : Value
  databaseId : Value
  savedAt : Value := .null

namespace Clip

/-- The record of a clip. -/
def toValue (c : Clip) : Value :=
  .record [("source_url", c.sourceUrl), ("page_id", c.pageId), ("page_url", c.pageUrl),
    ("database_id", c.databaseId), ("saved_at", c.savedAt)]

/-- The fault of a record that is no clip. -/
def notClip : Fault := .wrongKind "not a clip"

/-- The clip of a record, which has the fields of a clip and no others. -/
def ofValue (v : Value) : Except Fault Clip :=
  match v with
  | .record fields =>
    let names := ["source_url", "page_id", "page_url", "database_id", "saved_at"]
    if fields.all fun f => names.contains f.1 then
      match fields.lookup "source_url", fields.lookup "page_id", fields.lookup "page_url",
          fields.lookup "database_id" with
      | some sourceUrl, some pageId, some pageUrl, some databaseId =>
        .ok { sourceUrl, pageId, pageUrl, databaseId
              savedAt := (fields.lookup "saved_at").getD .null }
      | _, _, _, _ => .error notClip
    else .error notClip
  | _ => .error notClip

/-- A clip with the time it was saved at, if it has none. -/
def stamped (now : String) (c : Clip) : Clip :=
  match c.savedAt with
  | .null => { c with savedAt := .text now }
  | _ => c

/-- The key of a value in a record of the file. -/
def keyText : Value → Except Fault String
  | .list _ | .record _ => .error (.wrongKind "not a key")
  | .text s | .shown s => .ok s
  | v => .ok (Json.write v)

/-- The key of a clip: its source, or its page where the source is empty. -/
def key (c : Clip) : Except Fault String := keyText (c.sourceUrl.orElse c.pageId)

end Clip

namespace History

/-- A history without clips. -/
def empty : Value := .record [("clips", .record [])]

/-- The file of a history, made where it is missing. -/
def ensure : File → File
  | .missing => .text "\x7b\"clips\": \x7b\x7d\x7d"
  | f => f

/-- The history in a file. -/
def load (f : File) : Value :=
  match f.text?.map Json.read with
  | some (.ok v) => v
  | _ => empty

/-- A file after a history has been written to it. -/
def save (history : Value) (f : File) : Except Fault File := f.write (Json.write history)

/-- Put a value under a key of a record. -/
def put (key : String) (v : Value) : Value → Except Fault Value
  | .record fields => .ok (.record (putKey key v fields))
  | _ => .error (.wrongKind "no place for a key")

/-- A history with one more clip, whose database becomes the one used last. -/
def add (c : Clip) (history : Value) : Except Fault Value :=
  match history with
  | .record fields => do
    let clips := (fields.lookup "clips").getD (.record [])
    let key ← c.key
    let clips ← put key c.toValue clips
    pure (.record (putKey "last_database" c.databaseId (putKey "clips" clips fields)))
  | _ => .error Reply.notRecord

/-- Remember a clip saved now. -/
def record (now : String) (c : Clip) (f : File) : Except Fault File := do
  save (← add (c.stamped now) (load f)) f

/-- What is told of a clip that has been remembered. -/
def recorded (c : Clip) : Notice :=
  .info ("Recorded clip: " ++ (c.sourceUrl.orElse (.text "(no url)")).display ++ " -> " ++
    c.pageUrl.display)

/-- The database used last. -/
def lastDatabase (f : File) : Except Fault Value := Reply.get (load f) "last_database"

/-- The clips of a history. -/
def clips (f : File) : Except Fault Value := Reply.getD (load f) "clips" (.record [])

/-- The clip of a source. -/
def clipOf (url : String) (f : File) : Except Fault (Option Clip) := do
  let v ← Reply.get (← clips f) url
  if v.truthy then pure (some (← Clip.ofValue v)) else pure none

/-- All clips by key, in the order of the file. -/
def list (f : File) : Except Fault (List (String × Clip)) := do
  match ← clips f with
  | .record fields => fields.mapM fun (key, v) => do pure (key, ← Clip.ofValue v)
  | _ => throw Reply.notRecord

end History

end WebClip
