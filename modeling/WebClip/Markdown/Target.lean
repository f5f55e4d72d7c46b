import WebClip.Bytes.Percent
import WebClip.Html.Reference
import WebClip.Markdown.Marker
import WebClip.Text.LowerCase
/-!
# Targets of links

Destinations, titles and labels of links, and the definitions that give a label its
destination.
-/

namespace WebClip.Markdown.Target

open WebClip.Text

/-- ASCII punctuation, which a backslash may precede. -/
def isPunctuation (c : Char) : Bool :=
  let n := c.toNat
  (0x21 ≤ n && n ≤ 0x2F) || (0x3A ≤ n && n ≤ 0x40) || (0x5B ≤ n && n ≤ 0x60) ||
    (0x7B ≤ n && n ≤ 0x7E)

/-- A text with its backslash escapes resolved. -/
def unescape : List Char → List Char
  | '\\' :: c :: rest => if isPunctuation c then c :: unescape rest else '\\' :: unescape (c :: rest)
  | c :: rest => c :: unescape rest
  | [] => []

/-- Whether a character reference with a semicolon stands behind an ampersand, and its text. -/
def reference? (cs : List Char) : Option (List Char × Nat) :=
  match Html.reference? cs with
  | some (text, size) => if cs[size - 1]? == some ';' then some (text, size) else none
  | none => none

/-- A text with its complete character references decoded, behind `taken` characters. -/
def decodeAfter : Nat → List Char → List Char
  | _, [] => []
  | taken + 1, _ :: rest => decodeAfter taken rest
  | 0, c :: rest =>
    if c == '&' then
      match reference? rest with
      | some (text, size) => text ++ decodeAfter size rest
      | none => c :: decodeAfter 0 rest
    else c :: decodeAfter 0 rest

/-- A destination as a URL: character references decoded, then percent-encoded. -/
def toUrl (cs : List Char) : String := String.ofList (Percent.encode (decodeAfter 0 cs))

/-- A destination in angle brackets, behind the first of them. -/
def bracketed? : List Char → Option (List Char × List Char)
  | [] => none
  | '\\' :: c :: rest =>
    if c == '\n' then none
    else (bracketed? rest).map fun (d, r) => ('\\' :: c :: d, r)
  | c :: rest =>
    if c == '>' then some ([], rest)
    else if c == '<' || c == '\n' then none
    else (bracketed? rest).map fun (d, r) => (c :: d, r)

/-- A bare destination, in which parentheses pair up. It ends at white space, a control
character, or a parenthesis that closes none of its own. -/
def bare (depth : Nat) : List Char → List Char × List Char
  | [] => ([], [])
  | '\\' :: c :: rest =>
    if isPunctuation c then
      let (d, r) := bare depth rest
      ('\\' :: c :: d, r)
    else if c.toNat ≤ 32 then (['\\'], c :: rest)
    else
      let (d, r) := bare depth rest
      ('\\' :: c :: d, r)
  | c :: rest =>
    if c.toNat ≤ 32 || c.toNat = 127 then ([], c :: rest)
    else if c == '(' then
      let (d, r) := bare (depth + 1) rest
      (c :: d, r)
    else if c == ')' then
      if depth = 0 then ([], c :: rest)
      else
        let (d, r) := bare (depth - 1) rest
        (c :: d, r)
    else
      let (d, r) := bare depth rest
      (c :: d, r)

/-- Whether the parentheses of a bare destination pair up. -/
def isBalanced (depth : Nat) : List Char → Bool
  | [] => depth = 0
  | '\\' :: c :: rest =>
    if isPunctuation c then isBalanced depth rest else isBalanced depth (c :: rest)
  | c :: rest =>
    if c == '(' then isBalanced (depth + 1) rest
    else if c == ')' then isBalanced (depth - 1) rest
    else isBalanced depth rest

/-- A destination, and what follows it. -/
def destination? (cs : List Char) : Option (List Char × List Char) :=
  match cs with
  | '<' :: rest => bracketed? rest
  | _ =>
    let (d, rest) := bare 0 cs
    if isBalanced 0 d then some (d, rest) else none

/-- What follows a title behind its opening quote. -/
def afterTitle? (close : Char) : List Char → Option (List Char)
  | [] => none
  | '\\' :: _ :: rest => afterTitle? close rest
  | c :: rest =>
    if c == close then some rest
    else if close == ')' && c == '(' then none
    else afterTitle? close rest

/-- What follows a title, if one stands here. -/
def title? (cs : List Char) : Option (List Char) :=
  match cs with
  | '"' :: rest => afterTitle? '"' rest
  | '\'' :: rest => afterTitle? '\'' rest
  | '(' :: rest => afterTitle? ')' rest
  | _ => none

/-- A label behind its bracket: at most 999 characters without a bare bracket. -/
def labelUpTo : Nat → List Char → Option (List Char × List Char)
  | _, [] => none
  | 0, c :: rest => if c == ']' then some ([], rest) else none
  | n + 1, c :: rest =>
    if c == ']' then some ([], rest)
    else if c == '[' then none
    else if c == '\\' then
      match n, rest with
      | n + 1, d :: rest => (labelUpTo n rest).map fun (l, r) => (c :: d :: l, r)
      | _, _ => none
    else (labelUpTo n rest).map fun (l, r) => (c :: l, r)

/-- A label behind its bracket, and what follows it. -/
def label? (cs : List Char) : Option (List Char × List Char) := labelUpTo 999 cs

/-- A label as definitions are looked up by: words in one case with single spaces. -/
def key (label : List Char) : List Char :=
  [' '].intercalate ((words (lower label)).map fun w =>
    w.flatMap fun c => if c == 'ß' then ['s', 's'] else if c == 'ς' then ['σ'] else [c])

/-- What follows the white space at the end of a line, if nothing else is left on it. -/
def endOfLine? (cs : List Char) : Option (List Char) :=
  match cs.dropWhile Line.isSpace with
  | [] => some []
  | '\n' :: rest => some rest
  | _ => none

/-- White space with at most one line end. -/
def gap (cs : List Char) : List Char :=
  match cs.dropWhile Line.isSpace with
  | '\n' :: rest => rest.dropWhile Line.isSpace
  | rest => rest

/-- A definition at the start of a paragraph: the key of its label, its URL, and the rest. -/
def definition? (cs : List Char) : Option (List Char × String × List Char) :=
  match cs with
  | '[' :: rest =>
    match label? rest with
    | some (label, ':' :: rest) =>
      let label := key label
      let start := gap rest
      match destination? start with
      | some (d, rest) =>
        if label.isEmpty || (d.isEmpty && start.head? != some '<') then none
        else
          let url := toUrl (unescape d)
          let titled := gap rest
          let withTitle :=
            if titled.length < rest.length then (title? titled).bind endOfLine? else none
          match withTitle with
          | some rest => some (label, url, rest)
          | none => (endOfLine? rest).map fun rest => (label, url, rest)
      | none => none
    | _ => none
  | _ => none

end WebClip.Markdown.Target
