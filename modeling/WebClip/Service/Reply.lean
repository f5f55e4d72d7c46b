import WebClip.Fault
/-!
# Replies

Reading what the service answers. A reply is a value of unchecked type, and taking it
for a record it is not, or for one with a key it lacks, is a fault.
-/

namespace WebClip.Reply

/-- The fault of taking a value for a record. -/
def notRecord : Fault := .wrongShape "not a record"

/-- What a record has under a key, or the default where the key is missing. -/
def getD (v : Value) (key : String) (default : Value) : Except Fault Value :=
  match v with
  | .record fields => .ok ((fields.lookup key).getD default)
  | _ => .error notRecord

/-- What a record has under a key, or null. -/
def get (v : Value) (key : String) : Except Fault Value := getD v key .null

/-- What a record has under a key that it must have. -/
def require (v : Value) (key : String) : Except Fault Value :=
  match v with
  | .record fields =>
    match fields.lookup key with
    | some x => .ok x
    | none => .error (.missingKey key)
  | _ => .error (.wrongKind "not a record")

/-- The items of a list, the characters of a text or the keys of a record. -/
def iterate (v : Value) : Except Fault (List Value) :=
  match v with
  | .list items => .ok items
  | .text s => .ok (s.toList.map fun c => .text (String.singleton c))
  | .record fields => .ok (fields.map fun f => .text f.1)
  | _ => .error (.wrongKind "not iterable")

/-- Whether a block of the service is an image at a URL of its own. -/
def isExternalImage (block : Value) : Except Fault Bool := do
  let type ← get block "type"
  if type.text? = some "image" then
    let image ← getD block "image" (.record [])
    let kind ← get image "type"
    pure (kind.text? = some "external")
  else pure false

/-- The URL under which people see a page. -/
def pageUrl (page : Value) : Except Fault Value := do
  let url ← get page "url"
  if url.truthy then pure url
  else
    let shared ← get page "public_url"
    if shared.truthy then pure shared
    else match ← require page "id" with
      | .text id =>
        pure (.text ("https://notion.so/" ++ String.ofList (id.toList.filter (· != '-'))))
      | _ => .error (.wrongShape "no text")

end WebClip.Reply
