import WebClip.Markdown.Draft
import WebClip.Markdown.Piece
import WebClip.Markdown.Tag
import WebClip.Markdown.Target
/-!
# Inline content

The text of a block read from left to right into pieces: code, links, markup and breaks
bind first, brackets become links where they close, and emphasis marks pair up last.
-/

namespace WebClip.Markdown

open WebClip.Text

/-! ## What starts at a character -/

/-- A code span behind its first backtick: its text, and what follows it. `size` counts the
backticks of its fence. -/
def codeUpTo (size : Nat) : Nat → List Char → Option (List Char × List Char)
  | 0, _ => none
  | _, [] => none
  | n + 1, c :: rest =>
    if c == '`' then
      let run := 1 + (rest.takeWhile (· == '`')).length
      let behind := rest.drop (run - 1)
      if run = size then some ([], behind)
      else (codeUpTo size n behind).map fun (code, r) => (List.replicate run '`' ++ code, r)
    else (codeUpTo size n rest).map fun (code, r) => (c :: code, r)

/-- The text of a code span: a line end is a space, and one space at each end is no part of it. -/
def codeText (cs : List Char) : List Char :=
  let cs := cs.map fun c => if c == '\n' then ' ' else c
  if cs.head? == some ' ' && cs.getLast? == some ' ' && !cs.all (· == ' ') then
    cs.tail.dropLast
  else cs

/-- The URL in angle brackets: a scheme of two characters or more, a colon, and no white space. -/
def autolink? (cs : List Char) : Option (List Char × List Char) :=
  let scheme := cs.takeWhile fun c => c.isAlphanum || c == '+' || c == '.' || c == '-'
  let url := cs.takeWhile fun c => c.toNat > 32 && c != '<' && c != '>'
  match cs.drop scheme.length, cs.drop url.length with
  | ':' :: _, '>' :: rest =>
    if scheme.head?.any Char.isAlpha && 2 ≤ scheme.length && scheme.length ≤ 32 then
      some (url, rest)
    else none
  | _, _ => none

/-- Whether a part of a mail domain is well formed. -/
def isDomainLabel (cs : List Char) : Bool :=
  !cs.isEmpty && cs.length ≤ 63 && cs.all (fun c => c.isAlphanum || c == '-') &&
    cs.head? != some '-' && cs.getLast? != some '-'

/-- The mail address in angle brackets. -/
def mailAddress? (cs : List Char) : Option (List Char × List Char) :=
  match cutAt '>' cs with
  | (address, some rest) =>
    match cutAt '@' address with
    | (name, some domain) =>
      let allowed (c : Char) : Bool :=
        c.isAlphanum || ".!#$%&'*+/=?^_\x60\x7b|\x7d~-".toList.contains c
      if !name.isEmpty && name.all allowed && (splitOn '.' domain).all isDomainLabel then
        some (address, rest)
      else none
    | _ => none
  | _ => none

/-- The length of the bare URL at the start of a text, and zero if none stands here: it ends
before white space, an angle bracket, or the punctuation that closes a sentence. -/
def urlLength (cs : List Char) : Nat :=
  let run := cs.takeWhile fun c => !isBlank c && c != '<'
  let scheme :=
    if startsWith "http://".toList run then 7
    else if startsWith "https://".toList run then 8 else 0
  let size := (dropEndWhile (fun c => ".,:;\"')]".toList.contains c) run).length
  if scheme > 0 && size ≥ scheme + 2 then size else 0

/-- Struck text behind its marks: the text, and what follows it. -/
def struckUpTo (escaped : Bool) : List Char → Option (List Char × List Char)
  | [] => none
  | c :: rest =>
    let ends := (if c == '~' then escaped else !isBlank c) && startsWith ['~', '~'] rest
    if ends then some ([c], rest.drop 2)
    else (struckUpTo (c == '\\' && !escaped) rest).map fun (text, r) => (c :: text, r)

/-- The destination of a link in parentheses, and what follows them. -/
def parenthesized? (cs : List Char) : Option (String × List Char) :=
  match cs with
  | '(' :: rest =>
    match Target.destination? (Target.gap rest) with
    | some (d, behind) =>
      let url := Target.toUrl (Target.unescape d)
      let titled := Target.gap behind
      match titled with
      | ')' :: rest => some (url, rest)
      | _ =>
        if titled.length < behind.length then
          match (Target.title? titled).map Target.gap with
          | some (')' :: rest) => some (url, rest)
          | _ => none
        else none
    | none => none
  | _ => none

/-- What a closing bracket refers to: a destination in parentheses or a definition. `source`
begins behind the opening bracket and `rest` behind the closing one. -/
def target? (definitions : Definitions) (source rest : List Char) : Option (String × List Char) :=
  let define (label : List Char) : Option String := definitions.lookup (Target.key label)
  let own : Option String :=
    match Target.label? source with
    | some (label, r) => if r.length = rest.length then define label else none
    | none => none
  match parenthesized? rest with
  | some found => some found
  | none =>
    match rest with
    | '[' :: more =>
      match Target.label? more with
      | some ([], rest) => own.map fun url => (url, rest)
      | some (label, rest) => (define label).map fun url => (url, rest)
      | none => own.map fun url => (url, rest)
    | _ => own.map fun url => (url, rest)

/-! ## Reading -/

/-- The state of a reading: finished pieces newest first, plain text before the place reached,
newest first, the character there, and whether an anchor of markup is open. -/
structure Scan where
  pieces : List Piece := []
  pending : List Char := []
  previous : Option Char := none
  anchored : Bool := false

namespace Scan

/-- The pieces with the plain text as the last one. -/
def flushed (s : Scan) : List Piece :=
  if s.pending.isEmpty then s.pieces else .text s.pending.reverse :: s.pieces

/-- Add a piece, which ends with a character. -/
def add (p : Piece) (last : Char) (s : Scan) : Scan :=
  { s with pieces := p :: s.flushed, pending := [], previous := some last }

/-- Add a character of plain text. -/
def addChar (c : Char) (s : Scan) : Scan :=
  { s with pending := c :: s.pending, previous := some c }

/-- Add characters of plain text. -/
def addChars (cs : List Char) (s : Scan) : Scan := cs.foldl (fun s c => s.addChar c) s

/-- The inline content read. -/
def finish (s : Scan) : List Piece := Piece.emphasized s.flushed.reverse

/-- A line end: a hard break behind two spaces, else a soft one. -/
def breakLine (s : Scan) : Scan :=
  let text := s.pending.dropWhile (· == ' ')
  let hard := text.length + 2 ≤ s.pending.length
  { s with pending := text }.add (.plain (if hard then .lineBreak else .softBreak)) '\n'

/-- A backslash, before an escaped character, a line end or anything else. -/
def escape (rest : List Char) (s : Scan) : Scan × List Char :=
  match rest with
  | c :: rest =>
    if Target.isPunctuation c then (s.add (.text [c]) c, rest)
    else if c == '\n' then (s.add (.plain .lineBreak) '\n', rest.dropWhile Line.isSpace)
    else (s.addChar '\\', c :: rest)
  | [] => (s.addChar '\\', [])

/-- Backticks: a code span if as many close it, else text. -/
def code (rest : List Char) (s : Scan) : Scan × List Char :=
  let size := 1 + (rest.takeWhile (· == '`')).length
  let behind := rest.drop (size - 1)
  match codeUpTo size behind.length behind with
  | some (code, rest) => (s.add (.plain (.code (String.ofList (codeText code)))) '`', rest)
  | none => (s.add (.text (List.replicate size '`')) '`', behind)

/-- Emphasis marks. -/
def marks (mark : Char) (rest : List Char) (s : Scan) : Scan × List Char :=
  let count := 1 + (rest.takeWhile (· == mark)).length
  let behind := rest.drop (count - 1)
  (s.add (.delimiter (.ofRun mark count s.previous behind.head?)) mark, behind)

/-- A link that stands for itself; inside another link it is text. -/
def selfLink (linked : Bool) (url text : List Char) (last : Char) (s : Scan) : Scan :=
  let text := Inline.text (String.ofList text)
  if linked || s.anchored then s.add (.plain text) last
  else s.add (.done (.link (some (Target.toUrl url)) [text]) text) last

/-- An angle bracket: a URL, a mail address or markup between two of them, or text. -/
def angle (linked : Bool) (rest : List Char) (s : Scan) : Scan × List Char :=
  match autolink? rest with
  | some (url, rest) => (s.selfLink linked url url '>', rest)
  | none =>
  match mailAddress? rest with
  | some (address, rest) =>
    (s.selfLink linked ("mailto:".toList ++ address) address '>', rest)
  | none =>
  match Tag.afterMarkup? rest with
  | some behind =>
    let raw := '<' :: rest.take (rest.length - behind.length)
    let starts (tag : String) : Bool := startsWith tag.toList (raw.map Char.toLower)
    let s := s.add (.plain (.html (String.ofList raw))) '>'
    let s := { s with
      anchored :=
        if starts "<a " || starts "<a>" then true
        else if starts "</a " || starts "</a>" then false else s.anchored }
    (s, behind)
  | none => (s.addChar '<', rest)

/-- An opening bracket. -/
def openBracket (image : Bool) (rest : List Char) (s : Scan) : Scan :=
  s.add (.bracket image true rest) '['

/-- A closing bracket: a link or an image if it refers to something, else text. -/
def closeBracket (definitions : Definitions) (rest : List Char) (s : Scan) : Scan × List Char :=
  match Piece.splitAtBracket? s.flushed with
  | none => (s.addChar ']', rest)
  | some (behind, image, active, source, before) =>
    match if active then target? definitions source rest else none with
    | some (url, rest) =>
      let before := if image then before else before.map Piece.deactivate
      ({ s with pieces := .target image url behind.reverse :: before, pending := [],
                previous := some ')' }, rest)
    | none =>
      let text := Piece.plain (.text (Piece.bracketText image))
      ({ s with pieces := .text [']'] :: (behind ++ text :: before), pending := [],
                previous := some ']' }, rest)

/-- A bare URL of `size` characters. Inside brackets it ends before one that closes. -/
def url (linked : Bool) (size : Nat) (cs : List Char) (s : Scan) : Scan × List Char :=
  let url := cs.take size
  let url := if s.pieces.any Piece.isBracket then url.takeWhile (· != ']') else url
  (s.selfLink linked url url (url.getLast?.getD '/'), cs.drop url.length)

end Scan

/-- Read inline content on from a state. -/
def scan (definitions : Definitions) : Nat → Bool → Scan → List Char → List Piece
  | 0, _, s, cs => (s.addChars cs).finish
  | _, _, s, [] => s.finish
  | n + 1, linked, s, c :: rest =>
    let go (p : Scan × List Char) : List Piece := scan definitions n linked p.1 p.2
    if c == '\\' then go (s.escape rest)
    else if c == '`' then go (s.code rest)
    else if c == '*' || c == '_' then go (s.marks c rest)
    else if c == '\n' then go (s.breakLine, rest.dropWhile Line.isSpace)
    else if c == '<' then go (s.angle linked rest)
    else if c == '[' then go (if linked then s.addChar '[' else s.openBracket false rest, rest)
    else if c == ']' then go (s.closeBracket definitions rest)
    else if c == '!' && rest.head? == some '[' then go (s.openBracket true (rest.drop 1), rest.drop 1)
    else if c == '~' then
      match rest with
      | '~' :: d :: more =>
        match if isBlank d || d == '~' then none else struckUpTo false (d :: more) with
        | some (text, behind) =>
          let struck (linked : Bool) : Inline :=
            .strikethrough ((scan definitions n linked {} text).map (Piece.toInline linked))
          go (s.add (.done (struck linked) (struck true)) '~', behind)
        | none => go (s.addChar '~', rest)
      | _ => go (s.addChar '~', rest)
    else
      let size := if c == 'h' then urlLength (c :: rest) else 0
      if size > 0 then go (s.url linked size (c :: rest)) else go (s.addChar c, rest)

/-- The inline content of a text. -/
def inlines (definitions : Definitions) (text : List Char) : List Inline :=
  (scan definitions (text.length + 1) false {} text).map (Piece.toInline false)

end WebClip.Markdown
