import WebClip.Notice
import WebClip.Page.Block
import WebClip.Page.Language
import WebClip.Page.Node
import WebClip.Value.Number
/-!
# Compiling a page

Nodes become blocks one by one. The images of a text follow its block; an image that
no page can show is left out with a diagnostic; and a node that cannot be compiled
becomes a paragraph of its plain text, also with a diagnostic.
-/

namespace WebClip.Page

/-- What comes of compiling: blocks, diagnostics, and notices, the diagnostics among them. -/
structure Compiled where
  blocks : List Block := []
  diagnostics : List String := []
  notices : List Notice := []

namespace Compiled

/-- One result behind another. -/
def append (a b : Compiled) : Compiled :=
  ⟨a.blocks ++ b.blocks, a.diagnostics ++ b.diagnostics, a.notices ++ b.notices⟩

/-- Nothing but one block. -/
def block (b : Block) : Compiled := { blocks := [b] }

/-- Nothing but a diagnostic. -/
def diagnostic (text : String) : Compiled :=
  { diagnostics := [text], notices := [.warning text] }

/-- Results in order. -/
def concat (cs : List Compiled) : Compiled := cs.foldr append {}

end Compiled

/-- The level of a heading that a page can show. -/
def clampLevel (level : Int) : Int := max 1 (min level 3)

/-- A value as the level of a heading. -/
def headingLevel (level : Value) : Except Fault Int := level.toInt.map clampLevel

/-- What is known of the image at a URL; of one that nobody looked after, its own URL. -/
def assetFor (assets : Assets) (url : String) : Asset :=
  match assets.lookup url with
  | some a => if a.isResolved then a else .external url
  | none => .external url

/-- The image at a URL. -/
def compileImage (assets : Assets) (url alt : String) : Compiled :=
  let asset := assetFor assets url
  let value := asset.value.getD ""
  let caption := Run.ofText alt
  if asset.isUploaded then .block (.image (.upload value) caption)
  else if isEmbeddable value then .block (.image (.external value) caption)
  else .diagnostic ("Dropping image with unusable external URL (" ++ toString value.length ++
    " chars): " ++ String.ofList (value.toList.take 80))

/-- The images among spans. -/
def compileImages (assets : Assets) (spans : List Span) : Compiled :=
  .concat (spans.map fun s => match s.image with
    | some url => compileImage assets url s.text
    | none => {})

/-- A block of text and the images of its spans. A block without text stays away where
there are images. -/
def withImages (assets : Assets) (keep : Bool) (b : Block) (spans : List Span) : Compiled :=
  let images := compileImages assets spans
  if b.runs.isEmpty && !images.blocks.isEmpty && !keep then images
  else (Compiled.block b).append images

/-- Code in blocks of at most 2000 characters. -/
def compileCode (language text : String) : Compiled :=
  let language := Language.ofName language
  let parts := cutText maxTextLength text
  let notices := if parts.length > 1 then
      [Notice.info ("Split large code block (" ++ toString text.length ++ " chars) into " ++
        toString parts.length ++ " blocks")]
    else []
  let blocks := if parts.isEmpty then [.code language []]
    else parts.map fun part => .code language (Run.ofText part)
  { blocks, notices }

namespace Node

/-- Why spans have no runs. -/
def spansError? : Option (List Span) → Option Fault
  | none => some (.wrongKind "'NoneType' object is not iterable")
  | some spans => (Run.oversized? spans).map Value.tooManyDigits

/-- Why a node cannot be compiled, if it cannot. -/
def error? : Node → Option Fault
  | heading level spans =>
    match headingLevel level with
    | .error e => some e
    | .ok _ => spansError? spans
  | paragraph spans | item _ spans _ | quote spans => spansError? spans
  | code .. | rule | image .. => none
  | n@(foreign _) => some (.wrongKind ("Unknown node type: " ++ n.kindName))

/-- The blocks of a node that can be compiled. -/
def compileSound (assets : Assets) : Node → Compiled
  | heading level spans =>
    let spans := spans.getD []
    let level := match headingLevel level with
      | .ok level => level
      | .error _ => 1
    withImages assets false (.heading level (Run.ofSpans spans)) spans
  | paragraph spans =>
    withImages assets false (.paragraph (Run.ofSpans (spans.getD []))) (spans.getD [])
  | quote spans => withImages assets false (.quote (Run.ofSpans (spans.getD []))) (spans.getD [])
  | item ordered spans _ =>
    withImages assets true (.item ordered (Run.ofSpans (spans.getD []))) (spans.getD [])
  | code language text => compileCode language text
  | rule => .block .divider
  | image url alt => compileImage assets url alt
  | foreign _ => {}

/-- The paragraph that stands for a node that cannot be compiled. -/
def fallback (n : Node) : Compiled :=
  match n.text? with
  | none =>
    { notices := [.warning ("No plain text fallback for " ++ n.kindName ++
        ": 'NoneType' object is not iterable")] }
  | some text => if Text.blank text then {} else .block (.paragraph (Run.ofText text))

/-- The blocks of the node at a place in its document. -/
def compile (assets : Assets) (index : Nat) (n : Node) : Compiled :=
  match n.error? with
  | none => n.compileSound assets
  | some e =>
    (Compiled.diagnostic ("Node " ++ toString index ++ " (" ++ n.kindName ++
      ") failed to compile, using plain text: " ++ e.message)).append n.fallback

end Node

/-- The blocks of nodes, the first of which stands at `index`. -/
def compileFrom (assets : Assets) (index : Nat) : List Node → Compiled
  | [] => {}
  | n :: rest => (n.compile assets index).append (compileFrom assets (index + 1) rest)

/-- The blocks of a document. -/
def compile (assets : Assets) (nodes : List Node) : Compiled := compileFrom assets 0 nodes

end WebClip.Page
