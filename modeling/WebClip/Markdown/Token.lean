import WebClip.Value
/-!
# Document trees

What a markdown document consists of: blocks, and inline content within them. A
reader of markdown makes these trees; kinds of tokens that only extensions know are
kept as far as anything can be done with them.
-/

namespace WebClip.Markdown

/-- Inline content. Text and code are as written, with escapes resolved and character
references left as they are. -/
inductive Inline where
  | text (raw : String)
  | strong (children : List Inline)
  | emphasis (children : List Inline)
  | strikethrough (children : List Inline)
  | code (raw : String)
  | link (url : Option String) (children : List Inline)
  | image (url : Option String) (children : List Inline)
  | softBreak
  | lineBreak
  | html (raw : String)
  /-- A token of an unknown kind that has children. -/
  | group (children : List Inline)
  /-- A token of an unknown kind with its raw text, which may be empty. -/
  | other (raw : String)
  deriving Inhabited

/-- A block of a document. -/
inductive Block where
  | blank
  | heading (level : Value) (children : List Inline)
  | paragraph (children : List Inline)
  | quote (children : List Block)
  | list (ordered : Bool) (items : List (List Block))
  | code (info : String) (raw : String)
  | rule
  | html (raw : String)
  /-- A token of an unknown kind that has children. -/
  | group (children : List Block)
  /-- A token of an unknown kind without children. -/
  | unknown
  deriving Inhabited

end WebClip.Markdown
