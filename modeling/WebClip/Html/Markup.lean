import WebClip.Text.Blank
import WebClip.Text.LowerCase
import WebClip.Html.Reference
/-!
# Markup

A document as a sequence of pieces: text, tags, literal sections, and asides
(comments, declarations and instructions), which show nothing. The reading is
lenient: what is no markup is text, and an unfinished tag at the end is text too.
-/

namespace WebClip.Html

open WebClip.Text

/-- The attributes of a tag in order, names in lower case and values decoded. -/
abbrev Attributes := List (String × String)

/-- A piece of markup. -/
inductive Piece where
  | text (cs : List Char)
  | start (name : String) (attributes : Attributes)
  | single (name : String) (attributes : Attributes)
  | finish (name : String)
  | literal (cs : List Char)
  | aside
  /-- A section of an unknown kind, which no reading can go beyond. -/
  | refused
  /-- A decimal reference with too many digits. -/
  | oversized (digits : Nat)

/-! ## Tags -/

/-- The white space and slashes between attributes, except the slash that closes a tag.
The last character passed comes first in the answer. -/
def skipGap (last : Char) : List Char → Char × List Char
  | [] => (last, [])
  | c :: rest =>
    if isBlank c || (c == '/' && rest.head? != some '>') then skipGap c rest else (last, c :: rest)

/-- A character of a tag's name. -/
def isTagNameChar (c : Char) : Bool :=
  !(c == '\t' || c == '\n' || c == '\r' || c == '\x0c' || c == ' ' || c == '/' || c == '>' ||
    c == '\x00')

/-- The value behind an attribute's name, with the last character read and the rest. An equals
sign must follow; a value in quotes ends at the same quote, any other at white space or the
end of the tag. A quote that is never closed leaves the value empty where white space
precedes it, and belongs to the value behind a second equals sign. -/
def attributeValue? (cs : List Char) : Option (List Char × Char × List Char) :=
  let body := cs.dropWhile isBlank
  let equals := body.takeWhile (· == '=')
  let body := body.drop equals.length
  let gap := body.takeWhile isBlank
  let body := body.drop gap.length
  let bare (cs : List Char) :=
    let run := cs.takeWhile fun c => c != '>' && !isBlank c
    (run, run.getLastD '=', cs.drop run.length)
  if equals.isEmpty then none
  else match body with
    | [] => some ([], '=', [])
    | c :: rest =>
      if c == '"' || c == '\'' then
        match cutAt c rest with
        | (value, some rest) => some (value, c, rest)
        | (_, none) =>
          match gap.getLast? with
          | some b => some ([], '=', b :: body)
          | none => if equals.length ≥ 2 then some (bare ('=' :: body)) else none
      else some (bare body)

/-- One attribute, which must follow white space, a slash or a quote. -/
def attribute? (last : Char) : List Char → Option ((List Char × List Char) × Char × List Char)
  | [] => none
  | c :: rest =>
    if (isBlank last || last == '/' || last == '"' || last == '\'') &&
        !(isBlank c || c == '/' || c == '>') then
      let more := rest.takeWhile fun c => !(isBlank c || c == '/' || c == '=' || c == '>')
      let behind := rest.drop more.length
      match attributeValue? behind with
      | some (value, last, behind) => some ((c :: more, value), skipGap last behind)
      | none => some ((c :: more, []), skipGap ((c :: more).getLastD c) behind)
    else none

/-- The attributes of a tag, at most `n` of them, and what follows. -/
def attributes : Nat → Char → List Char → List (List Char × List Char) × List Char
  | 0, _, cs => ([], cs)
  | n + 1, last, cs =>
    match attribute? last cs with
    | some (a, last, rest) => let (as, rest) := attributes n last rest; (a :: as, rest)
    | none => ([], cs)

/-- What a reading found: pieces and the rest of the text, or an unfinished construct. -/
inductive Found where
  | pieces (ps : List Piece) (rest : List Char)
  | unfinished

/-- A start tag behind its angle bracket. -/
def startTag (cs : List Char) : Found :=
  let name := cs.takeWhile isTagNameChar
  let (last, body) := skipGap (name.getLastD '<') (cs.drop name.length)
  let (raw, rest) := attributes body.length last body
  let tag := String.ofList (lower name)
  let decoded := raw.map fun a => (String.ofList (lower a.1), String.ofList (decode a.2))
  let found (p : Piece) (rest : List Char) : Found :=
    match raw.findSome? fun a => oversized? a.2 with
    | some digits => .pieces [.oversized digits] []
    | none => .pieces [p] rest
  match rest with
  | '>' :: rest => found (.start tag decoded) rest
  | '/' :: '>' :: rest => found (.single tag decoded) rest
  | [] => .unfinished
  | c :: _ =>
    if c.isAlpha || c == '=' || c == '/' then .unfinished
    else found (.text ('<' :: cs.take (cs.length - rest.length))) rest

/-- A character of an end tag's name where nothing else follows the name. -/
def isPlainNameChar (c : Char) : Bool :=
  c.isAlphanum || c == '-' || c == '.' || c == ':' || c == '_'

/-- An end tag behind its angle bracket and slash. -/
def endTag (cs : List Char) : Found :=
  match cutAt '>' cs with
  | (_, none) => .unfinished
  | (inside, some rest) =>
    let body := trim inside
    if (body.head?.any Char.isAlpha) && body.all isPlainNameChar then
      .pieces [.finish (String.ofList (lower body))] rest
    else if inside.head?.any Char.isAlpha then
      .pieces [.finish (String.ofList (lower (inside.takeWhile isTagNameChar)))] rest
    else if inside.isEmpty then .pieces [] rest
    else .pieces [.aside] rest

/-! ## Comments, declarations and sections -/

/-- What follows the first place where `close` and, after white space, one more angle
bracket end a construct, together with what stands before it. -/
def cutAtClose (close : List Char) : List Char → Option (List Char × List Char)
  | [] => none
  | c :: rest =>
    let behind := ((c :: rest).drop close.length).dropWhile isBlank
    if close.isPrefixOf (c :: rest) && behind.head? == some '>' then some ([], behind.drop 1)
    else (cutAtClose close rest).map fun (before, after) => (c :: before, after)

/-- The same for two closing brackets that white space may part. -/
def cutAtBrackets : List Char → Option (List Char × List Char)
  | [] => none
  | c :: rest =>
    let second := rest.dropWhile isBlank
    let behind := (second.drop 1).dropWhile isBlank
    if c == ']' && second.head? == some ']' && behind.head? == some '>' then
      some ([], behind.drop 1)
    else (cutAtBrackets rest).map fun (before, after) => (c :: before, after)

/-- A marked section behind its opening. -/
def section? (cs : List Char) : Found :=
  let name := cs.takeWhile fun c => c.isAlphanum || c == '-' || c == '_' || c == '.'
  let gap := (cs.drop name.length).takeWhile isBlank
  let kind := (String.ofList name).toLower
  if cs.isEmpty then .unfinished
  else if !(cs.head?.any Char.isAlpha) then .pieces [.refused] []
  else if name.length + gap.length = cs.length then .unfinished
  else if ["temp", "cdata", "ignore", "include", "rcdata"].contains kind then
    match cutAtBrackets cs with
    | none => .unfinished
    | some (inside, rest) =>
      if kind == "cdata" && (inside.drop 5).head? == some '[' then
        .pieces [.literal (inside.drop 6)] rest
      else .pieces [.aside] rest
  else if ["if", "else", "endif"].contains kind then
    match cutAtClose [']'] cs with
    | none => .unfinished
    | some (_, rest) => .pieces [.aside] rest
  else .pieces [.refused] []

/-- Whatever ends at the next angle bracket and shows nothing. -/
def toNextBracket (cs : List Char) : Found :=
  match cutAt '>' cs with
  | (_, none) => .unfinished
  | (_, some rest) => .pieces [.aside] rest

/-- A construct behind its angle bracket; an angle bracket that starts none is text. -/
def construct (cs : List Char) : Found :=
  match cs with
  | '/' :: rest => endTag rest
  | '!' :: '-' :: '-' :: rest =>
    match cutAtClose ['-', '-'] rest with
    | none => .unfinished
    | some (_, rest) => .pieces [.aside] rest
  | '?' :: rest => toNextBracket rest
  | '!' :: '[' :: rest => section? rest
  | '!' :: rest =>
    if ((String.ofList (rest.take 7)).toLower == "doctype") then toNextBracket (rest.drop 7)
    else toNextBracket rest
  | [] => .unfinished
  | c :: _ => if c.isAlpha then startTag cs else .pieces [.text ['<']] cs

/-! ## References in text -/

/-- The text of a numbered reference in a document, where codes below 256 belong to the
code page of old documents. -/
def documentCode (n : Nat) : List Char :=
  let n := oldCode n
  if (0xD800 ≤ n && n ≤ 0xDFFF) || n > 0x10FFFF then ['\uFFFD'] else [Char.ofNat n]

/-- The text of a named reference in a document; a name that is none stands for itself. -/
def documentName (name : List Char) : List Char :=
  match namedReference? (String.ofList (name ++ [';'])) with
  | some text => text.toList
  | none => '&' :: name

/-- What an ampersand and the text behind it say. -/
inductive Ampersand where
  | pieces (ps : List Piece) (rest : List Char)
  /-- No reference, and nothing behind it is read any more in this turn. -/
  | stuck
  /-- The same after taking a few characters as text. -/
  | stuckAfter (text : List Char) (rest : List Char)

/-- Read the reference behind an ampersand. It must end before the text does, at the last
hyphen or point of its name if need be, and takes a semicolon with it. -/
def ampersand (final : Bool) (cs : List Char) : Ampersand :=
  match cs with
  | '#' :: rest =>
    let isHex := rest.head? == some 'x' || rest.head? == some 'X'
    let body := if isHex then rest.drop 1 else rest
    let digits := body.takeWhile (if isHex then isHexDigit else Char.isDigit)
    let behind := body.drop digits.length
    match digits, behind with
    | _ :: _, c :: more =>
      if !isHex && isHexDigit c then
        if rest.contains ';' then .stuckAfter ['&', '#'] rest else .stuck
      else if !isHex && digits.length > maxReferenceDigits then .pieces [.oversized digits.length] []
      else
        .pieces [.text (documentCode (numberIn (if isHex then 16 else 10) digits))]
          (if c == ';' then more else behind)
    | _, _ => if rest.contains ';' then .stuckAfter ['&', '#'] rest else .stuck
  | c :: rest =>
    if c.isAlpha then
      let name := c :: rest.takeWhile fun c => c.isAlphanum || c == '-' || c == '.'
      let ending := name.reverse.takeWhile Char.isAlphanum
      match cs.drop name.length with
      | d :: more => .pieces [.text (documentName name)] (if d == ';' then more else d :: more)
      | [] =>
        if ending.length < name.length then
          let size := name.length - ending.length - 1
          .pieces [.text (documentName (name.take size))] (name.drop size)
        else if final && cs.length = 1 then .stuckAfter [] cs
        else .stuck
    else .pieces [.text ['&']] cs
  | [] => .stuck

/-! ## Documents -/

/-- What follows the end tag of an element that holds raw text. -/
def afterRaw (name : List Char) : List Char → Option (List Char)
  | [] => none
  | c :: rest =>
    let inside := (rest.drop 1).dropWhile isBlank
    let behind := (inside.drop name.length).dropWhile isBlank
    if c == '<' && rest.head? == some '/' &&
        (inside.take name.length).map Char.toLower == name && behind.head? == some '>' then
      some (behind.drop 1)
    else afterRaw name rest

/-- The elements that hold raw text. -/
def rawElements : List String := ["script", "style"]

/-- Read a document in at most `fuel` steps. Where a construct is unfinished the reading
starts its final turn, in which unfinished constructs are text. -/
def readWith : Nat → Bool → List Char → List Piece
  | 0, _, _ => []
  | _, _, [] => []
  | fuel + 1, final, c :: rest =>
    if c == '<' then
      match construct rest with
      | .pieces ps behind =>
        match ps with
        | [.start name attributes] =>
          if rawElements.contains name then
            match afterRaw name.toList behind with
            | some behind =>
              .start name attributes :: .finish name :: readWith fuel final behind
            | none => [.start name attributes]
          else ps ++ readWith fuel final behind
        | _ => ps ++ readWith fuel final behind
      | .unfinished =>
        if !final then readWith fuel true (c :: rest)
        else if rest.isEmpty then [.text [c]]
        else match cutAt '>' rest with
          | (before, some behind) => .text (c :: (before ++ ['>'])) :: readWith fuel true behind
          | (_, none) =>
            let before := rest.takeWhile (· != '<')
            if before.length = rest.length then .text [c] :: readWith fuel true rest
            else .text (c :: before) :: readWith fuel true (rest.drop before.length)
    else if c == '&' then
      match ampersand final rest with
      | .pieces ps behind => ps ++ readWith fuel final behind
      | .stuck => if final then [.text (c :: rest)] else readWith fuel true (c :: rest)
      | .stuckAfter text behind =>
        if final then [.text text, .text behind] else .text text :: readWith fuel true behind
    else
      let run := (c :: rest).takeWhile fun c => c != '<' && c != '&'
      .text run :: readWith fuel final ((c :: rest).drop run.length)

/-- The pieces of a document. -/
def read (cs : List Char) : List Piece := readWith (cs.length + 2) false cs

end WebClip.Html
