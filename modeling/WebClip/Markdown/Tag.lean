import WebClip.Text.Blank
/-!
# Tags

Recognising the tags of HTML in a document: how many characters a tag, a comment, an
instruction, a declaration or a literal section takes.
-/

namespace WebClip.Markdown.Tag

open WebClip.Text

/-- A character of a tag's name. -/
def isNameChar (c : Char) : Bool := c.isAlphanum || c == '-'

/-- The name at the start of a text. -/
def name (cs : List Char) : List Char :=
  match cs with
  | c :: _ => if c.isAlpha then cs.takeWhile isNameChar else []
  | [] => []

/-- What follows the value of an attribute, if one stands here. -/
def afterValue? (cs : List Char) : Option (List Char) :=
  match cs with
  | [] => none
  | c :: rest =>
    if c == '"' || c == '\'' then (cutAt c rest).2
    else
      let run := cs.takeWhile fun c =>
        !(isBlank c || c == '"' || c == '\'' || c == '=' || c == '<' || c == '>' || c == '`')
      if run.isEmpty then none else some (cs.drop run.length)

/-- What follows one attribute and the white space before it, if one stands here. -/
def afterAttribute? (cs : List Char) : Option (List Char) :=
  let body := cs.dropWhile isBlank
  if body.length = cs.length then none
  else match body with
    | c :: rest =>
      if c.isAlpha || c == '_' || c == ':' then
        let behind := rest.dropWhile fun c =>
          c.isAlphanum || c == '_' || c == '.' || c == ':' || c == '-'
        match behind.dropWhile isBlank with
        | '=' :: more =>
          match afterValue? (more.dropWhile isBlank) with
          | some more => some more
          | none => some behind
        | _ => some behind
      else none
    | [] => none

/-- What follows at most `n` attributes. -/
def afterAttributes : Nat → List Char → List Char
  | 0, cs => cs
  | n + 1, cs =>
    match afterAttribute? cs with
    | some rest => afterAttributes n rest
    | none => cs

/-- What follows a start tag behind its angle bracket. -/
def afterStart? (cs : List Char) : Option (List Char) :=
  let tag := name cs
  if tag.isEmpty then none
  else
    let body := cs.drop tag.length
    let body := (afterAttributes body.length body).dropWhile isBlank
    match body with
    | '/' :: '>' :: rest => some rest
    | '>' :: rest => some rest
    | _ => none

/-- What follows an end tag behind its angle bracket and slash. -/
def afterEnd? (cs : List Char) : Option (List Char) :=
  let tag := name cs
  if tag.isEmpty then none
  else match (cs.drop tag.length).dropWhile isBlank with
    | '>' :: rest => some rest
    | _ => none

/-- What follows the first occurrence of a text. -/
def after? (text : List Char) : List Char → Option (List Char)
  | [] => none
  | c :: rest => if text.isPrefixOf (c :: rest) then some ((c :: rest).drop text.length) else after? text rest

/-- What follows any piece of markup behind its angle bracket. -/
def afterMarkup? (cs : List Char) : Option (List Char) :=
  match cs with
  | '/' :: rest => afterEnd? rest
  | '?' :: rest => after? ['?', '>'] rest
  | '!' :: '-' :: '-' :: '>' :: rest => some rest
  | '!' :: '-' :: '-' :: '-' :: '>' :: rest => some rest
  | '!' :: '-' :: '-' :: rest => after? ['-', '-', '>'] rest
  | '!' :: '[' :: 'C' :: 'D' :: 'A' :: 'T' :: 'A' :: '[' :: rest => after? [']', ']', '>'] rest
  | '!' :: c :: rest => if c.isAlpha then after? ['>'] rest else none
  | _ => afterStart? cs

end WebClip.Markdown.Tag
