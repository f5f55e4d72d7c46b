import WebClip.Markdown.Line
import WebClip.Markdown.Tag
/-!
# Markers

What the text of a line, behind its indentation, begins: a heading, a rule, a fence, a
list item or a block of markup.
-/

namespace WebClip.Markdown.Marker

open WebClip.Text

/-- ASCII white space. -/
def isAsciiSpace (c : Char) : Bool :=
  c == ' ' || c == '\t' || c == '\n' || c == '\r' || c == '\x0b' || c == '\x0c'

/-- Three or more of one of three characters, with nothing but white space among them. -/
def isRule (cs : List Char) : Bool :=
  match cs with
  | [] => false
  | c :: _ =>
    (c == '-' || c == '_' || c == '*') && cs.all (fun d => d == c || Line.isSpace d) &&
      cs.count c ≥ 3

/-- A heading's text without the number signs that close it. -/
def dropClosing (cs : List Char) : List Char :=
  let trimmed := trimWhile isAsciiSpace cs
  let bare := dropEndWhile (· == '#') trimmed
  if bare.isEmpty then []
  else if bare.length < trimmed.length && bare.getLast?.any isAsciiSpace then
    dropEndWhile isAsciiSpace bare
  else trimmed

/-- A heading: one to six number signs and, behind white space, its text. -/
def heading? (cs : List Char) : Option (Nat × List Char) :=
  let level := (cs.takeWhile (· == '#')).length
  let rest := cs.drop level
  if 1 ≤ level && level ≤ 6 && (rest.isEmpty || rest.head?.any Line.isSpace) then
    some (level, dropClosing rest)
  else none

/-- The line under a heading, and the heading's level. -/
def underline? (cs : List Char) : Option Nat :=
  match dropEndWhile Line.isSpace cs with
  | [] => none
  | c :: rest =>
    if (c == '=' || c == '-') && rest.all (· == c) then some (if c == '=' then 1 else 2) else none

/-- The opening of fenced code: the character, how many of it, and the info text. An info
text behind backticks holds none itself. -/
def fence? (cs : List Char) : Option (Char × Nat × List Char) :=
  match cs with
  | [] => none
  | c :: _ =>
    let size := (cs.takeWhile (· == c)).length
    let info := cs.drop size
    if (c == '`' || c == '~') && size ≥ 3 && !(c == '`' && info.contains '`') then
      some (c, size, trimWhile isAsciiSpace info)
    else none

/-- Whether a line closes code fenced with `size` of a character. -/
def closesFence (c : Char) (size : Nat) (cs : List Char) : Bool :=
  let run := cs.takeWhile (· == c)
  run.length ≥ size && (cs.drop run.length).all Line.isSpace

/-- The marker of a list item: whether it is numbered, by which number, the character that
lists share, and how many characters the marker takes. -/
structure Bullet where
  ordered : Bool
  number : Nat
  mark : Char
  size : Nat

/-- The marker at the start of a text; white space or the end of the line must follow. -/
def bullet? (cs : List Char) : Option Bullet :=
  let digits := cs.takeWhile Char.isDigit
  let ends (n : Nat) : Bool := (cs.drop n).head?.all Line.isSpace
  if digits.isEmpty then
    match cs with
    | c :: _ =>
      if (c == '-' || c == '+' || c == '*') && ends 1 then some ⟨false, 0, c, 1⟩ else none
    | [] => none
  else
    match cs.drop digits.length with
    | c :: _ =>
      if (c == '.' || c == ')') && digits.length ≤ 9 && ends (digits.length + 1) then
        some ⟨true, digits.foldl (fun n d => 10 * n + (d.toNat - '0'.toNat)) 0, c, digits.length + 1⟩
      else none
    | [] => none

/-- Where a block of markup ends: with the line that holds a text, or before a blank line. -/
inductive MarkupEnd where
  | at (text : List Char)
  | blankLine
  deriving DecidableEq

/-- Elements whose markup ends with their end tag. -/
def verbatimElements : List String := ["pre", "script", "style", "textarea"]

/-- Elements whose markup ends before a blank line. -/
def blockElements : List String :=
  ["address", "article", "aside", "base", "basefont", "blockquote", "body", "caption", "center",
   "col", "colgroup", "dd", "details", "dialog", "dir", "div", "dl", "dt", "fieldset",
   "figcaption", "figure", "footer", "form", "frame", "frameset", "h1", "h2", "h3", "h4", "h5",
   "h6", "head", "header", "hr", "html", "iframe", "legend", "li", "link", "main", "menu",
   "menuitem", "meta", "nav", "noframes", "ol", "optgroup", "option", "p", "param", "search",
   "section", "source", "summary", "table", "tbody", "td", "tfoot", "th", "thead", "title", "tr",
   "track", "ul"]

/-- The start of a block of markup: where it ends, and whether it may end a paragraph. A tag of
any other element starts one when it stands alone on its line. -/
def markup? (cs : List Char) : Option (MarkupEnd × Bool) :=
  match cs with
  | '<' :: '!' :: '-' :: '-' :: _ => some (.at "-->".toList, true)
  | '<' :: '?' :: _ => some (.at "?>".toList, true)
  | '<' :: '!' :: '[' :: rest =>
    if startsWith "CDATA[".toList rest then some (.at "]]>".toList, true) else none
  | '<' :: '!' :: c :: _ => if c.isAlpha then some (.at ">".toList, true) else none
  | '<' :: '/' :: rest =>
    let tag := (Tag.name rest).map Char.toLower
    if blockElements.contains (String.ofList tag) then some (.blankLine, true)
    else match Tag.afterEnd? rest with
      | some behind => if behind.all isAsciiSpace then some (.blankLine, false) else none
      | none => none
  | '<' :: rest =>
    let tag := (Tag.name rest).map Char.toLower
    if verbatimElements.contains (String.ofList tag) then
      some (.at ('<' :: '/' :: (tag ++ ['>'])), true)
    else if blockElements.contains (String.ofList tag) then some (.blankLine, true)
    else match Tag.afterStart? rest with
      | some behind => if behind.all isAsciiSpace then some (.blankLine, false) else none
      | none => none
  | _ => none

end WebClip.Markdown.Marker
