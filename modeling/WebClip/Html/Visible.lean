import WebClip.Html.Markup
/-!
# Visible text and images

What of a document a reader sees: its text without what scripts, styles, templates
and annotations of pronunciation hold, and the image elements. A stretch of white
space between two tags counts as one space or line feed.
-/

namespace WebClip.Html

/-- Elements without content. -/
def voidElements : List String :=
  ["area", "base", "br", "col", "embed", "hr", "img", "input", "keygen", "link", "menuitem", "meta",
   "param", "source", "track", "wbr", "basefont", "bgsound", "command", "frame", "image", "isindex",
   "nextid", "spacer"]

/-- Elements whose text is not shown. -/
def hidingElements : List String := ["rt", "rp", "style", "script", "template"]

/-- Elements that keep their white space. -/
def spaceKeepers : List String := ["pre", "textarea"]

/-- A reader on its way through a document. -/
structure Reader where
  /-- The open elements, innermost first. -/
  stack : List String := []
  /-- Elements without content that were closed where they stood and whose end tag may follow. -/
  closed : List String := []
  /-- The text since the last tag, newest first. -/
  pending : List (List Char) := []
  /-- The visible text, newest first. -/
  shown : List (List Char) := []
  /-- The attributes of the image elements, newest first. -/
  images : List Attributes := []

namespace Reader

/-- A stretch of nothing but ASCII white space counts as one line feed or space. -/
def collapse (cs : List Char) : List Char :=
  if cs.all fun c => c == ' ' || c == '\n' || c == '\t' || c == '\x0c' || c == '\r' then
    if cs.contains '\n' then ['\n'] else [' ']
  else cs

/-- End the text since the last tag. -/
def flush (r : Reader) (always : Bool) : Reader :=
  if r.pending.isEmpty then r
  else
    let cs := r.pending.reverse.flatten
    let cs := if r.stack.any spaceKeepers.contains then cs else collapse cs
    let hidden := !always && r.stack.any hidingElements.contains
    { r with pending := [], shown := if hidden then r.shown else cs :: r.shown }

/-- Close the innermost open element of a name and all inside it. -/
def close (name : String) (r : Reader) : Reader :=
  if r.stack.contains name then { r with stack := (r.stack.dropWhile (· != name)).drop 1 } else r

/-- Close an element at its end tag, unless it was closed where it stood. -/
def finish (name : String) (r : Reader) : Reader :=
  if r.closed.contains name then { r with closed := r.closed.erase name }
  else (r.flush false).close name

/-- Open an element. -/
def enter (name : String) (attributes : Attributes) (r : Reader) : Reader :=
  let r := r.flush false
  { r with
    stack := name :: r.stack
    images := if name == "img" then attributes :: r.images else r.images }

/-- Pass one piece of markup. -/
def step (r : Reader) : Piece → Reader
  | .text cs => if cs.isEmpty then r else { r with pending := cs :: r.pending }
  | .start name attributes =>
    let r := r.enter name attributes
    if voidElements.contains name then { r.close name with closed := r.closed ++ [name] } else r
  | .single name attributes => (r.enter name attributes).finish name
  | .finish name => r.finish name
  | .literal cs => { r.flush false with pending := [cs] }.flush true
  | .aside => r.flush false
  | .refused | .oversized _ => r

end Reader

/-- Why a document cannot be read. -/
inductive ReadError where
  | refused
  | oversized (digits : Nat)

/-- What makes a document unreadable, if anything does. -/
def readError? (cs : List Char) : Option ReadError :=
  (read cs).findSome? fun
    | .refused => some .refused
    | .oversized digits => some (.oversized digits)
    | _ => none

/-- The reader after the whole document. -/
def readAll (cs : List Char) : Reader := ((read cs).foldl Reader.step {}).flush false

/-- The visible text of a document. -/
def visibleText (cs : List Char) : List Char := (readAll cs).shown.reverse.flatten

/-- The image elements of a document, in order, by their attributes. -/
def images (cs : List Char) : List Attributes := (readAll cs).images.reverse

/-- The value of an attribute; of two with one name the last counts. -/
def valueOf? (name : String) (attributes : Attributes) : Option String :=
  attributes.reverse.lookup name

end WebClip.Html
