import WebClip.Markdown.Target
/-!
# Drafts

The block structure of a document, read line by line. A line first continues the open
containers it can, then opens new ones, and what is left of it goes to the innermost
block; a paragraph also takes lines that its containers do not. Inline content stays
text until every definition of a link is known.
-/

namespace WebClip.Markdown

open WebClip.Text

/-- A block whose inline content is not read yet. -/
inductive Draft where
  | heading (level : Nat) (text : List Char)
  | paragraph (text : List Char)
  | quote (children : List Draft)
  | list (ordered : Bool) (mark : Char) (items : List (List Draft))
  | code (info raw : List Char)
  | rule
  | html (raw : List Char)

/-- The definitions of links, by key. -/
abbrev Definitions := List (List Char × String)

namespace Draft

/-- A block that lines are still added to, newest line first. -/
inductive Leaf where
  | none
  | paragraph (lines : List (List Char))
  | fenced (mark : Char) (size indent : Nat) (info : List Char) (lines : List (List Char))
  | indented (lines : List (List Char))
  | html (ending : Marker.MarkupEnd) (lines : List (List Char))

/-- What an open container is. An item takes the lines indented at least as far as its text. -/
inductive Container where
  | document
  | quote
  | item (ordered : Bool) (mark : Char) (width : Nat)

/-- An open container with the blocks already closed in it, newest first. -/
structure Frame where
  container : Container
  children : List Draft := []

/-- The open containers, innermost first, the leaf in the innermost one, and the definitions
found so far, newest first. -/
structure Reading where
  frames : List Frame := [⟨.document, []⟩]
  leaf : Leaf := .none
  definitions : Definitions := []

/-- Lines put together, oldest last. -/
def joinLines (lines : List (List Char)) : List Char := ['\n'].intercalate lines.reverse

/-- Lines put together, each with its line feed. -/
def endLines (lines : List (List Char)) : List Char := lines.reverse.flatMap (· ++ ['\n'])

/-- The definitions at the start of a paragraph and what is left of it. -/
def takeDefinitions : Nat → List Char → Definitions → Definitions × List Char
  | 0, cs, found => (found, cs)
  | n + 1, cs, found =>
    match Target.definition? cs with
    | some (key, url, rest) => takeDefinitions n rest ((key, url) :: found)
    | none => (found, cs)

namespace Reading

/-- Put a block into the innermost container. -/
def add (d : Draft) (r : Reading) : Reading :=
  match r.frames with
  | f :: rest => { r with frames := { f with children := d :: f.children } :: rest }
  | [] => r

/-- Take the definitions from the paragraph's start, and leave its text. -/
def settle (lines : List (List Char)) (r : Reading) : Reading × List Char :=
  let text := joinLines lines
  let (definitions, rest) := takeDefinitions text.length text r.definitions
  ({ r with definitions }, trimWhile (fun c => c == '\n' || Line.isSpace c) rest)

/-- Close the leaf. -/
def closeLeaf (r : Reading) : Reading :=
  let closed := { r with leaf := .none }
  match r.leaf with
  | .none => r
  | .paragraph lines =>
    let (closed, text) := closed.settle lines
    if text.isEmpty then closed else closed.add (.paragraph text)
  | .fenced _ _ _ info lines => closed.add (.code info (endLines lines))
  | .indented lines =>
    let blank (l : List Char) : Bool := l.all Line.isSpace
    closed.add (.code [] (joinLines (lines.dropWhile blank)))
  | .html _ lines => closed.add (.html (endLines lines))

/-- Put a closed container into the one around it; an item joins a list of its kind before it. -/
def nest (f : Frame) (outer : Frame) : Frame :=
  let children := f.children.reverse
  match f.container with
  | .document => outer
  | .quote => { outer with children := .quote children :: outer.children }
  | .item ordered mark _ =>
    match outer.children with
    | .list o m items :: rest =>
      if o == ordered && m == mark then
        { outer with children := .list o m (items ++ [children]) :: rest }
      else { outer with children := .list ordered mark [children] :: outer.children }
    | rest => { outer with children := .list ordered mark [children] :: rest }

/-- A leaf that its item ends: the blank lines at the end of an item are in no block of it. -/
def endLeaf (f : Frame) (leaf : Leaf) : Leaf :=
  let shown (lines : List (List Char)) : List (List Char) :=
    lines.dropWhile fun l => l.all isBlank
  match f.container, leaf with
  | .item .., .fenced mark size indent info lines => .fenced mark size indent info (shown lines)
  | .item .., .html ending lines => .html ending (shown lines)
  | _, leaf => leaf

/-- Close the `n` innermost containers and the leaf. -/
def closeInner : Nat → Reading → Reading
  | 0, r => r
  | n + 1, r =>
    let r := { r with leaf := match r.frames with
      | f :: _ => endLeaf f r.leaf
      | [] => r.leaf }
    let r := r.closeLeaf
    match r.frames with
    | f :: outer :: rest => closeInner n { r with frames := nest f outer :: rest }
    | _ => r

/-- Open a container. -/
def enter (c : Container) (r : Reading) : Reading := { r with frames := ⟨c, []⟩ :: r.frames }

end Reading

/-- Whether a container holds nothing yet. -/
def isEmpty (f : Frame) (innermost : Bool) (leaf : Leaf) : Bool :=
  innermost && f.children.isEmpty && match leaf with
    | .none => true
    | _ => false

/-- What a container that continues leaves of a line. -/
def continue? (f : Frame) (empty : Bool) (l : Line) : Option Line :=
  match f.container with
  | .document => some l
  | .quote =>
    match l.body with
    | '>' :: _ =>
      if l.indent ≤ 3 then
        let rest := l.skipIndent.skipChars 1
        some (if rest.text.head?.any Line.isSpace then rest.stepColumn else rest)
      else none
    | _ => none
  | .item _ _ width =>
    if l.isBlank then (if empty then none else some l.skipIndent)
    else if l.indent ≥ width then some (l.skipColumns width)
    else none

/-- How many of the containers, outermost first, continue on a line, and what they leave of it. -/
def continued (leaf : Leaf) : List Frame → Line → Nat × Line
  | [], l => (0, l)
  | f :: rest, l =>
    match continue? f (isEmpty f rest.isEmpty leaf) l with
    | some l =>
      let (n, l) := continued leaf rest l
      (n + 1, l)
    | none => (0, l)

/-- The deepest nesting at which containers still hold others of their own kind. -/
def maxDepth : Nat := 20

/-- Whether a quote may start inside the open containers. -/
def quoteAllowed (frames : List Frame) : Bool :=
  match frames with
  | ⟨.quote, _⟩ :: rest => rest.length < maxDepth
  | _ => true

/-- Whether a list may start inside the open containers. -/
def listAllowed (frames : List Frame) : Bool :=
  match frames with
  | ⟨.item .., _⟩ :: rest => rest.length < maxDepth
  | _ => true

/-- The text that a block of markup starts with; what ends it comes behind. -/
def openingSize (cs : List Char) : Nat :=
  match cs with
  | '<' :: '!' :: '-' :: _ => 4
  | '<' :: '!' :: '[' :: _ => 9
  | '<' :: '!' :: _ => 3
  | '<' :: '?' :: _ => 2
  | _ => 1 + (Tag.name (cs.drop 1)).length

/-- Open the blocks that a line starts. `inner` counts the containers that the line does not
continue, `fits` says whether the leaf does, and the answer is the reading with what is left
of the line, or nothing if a leaf took it all. -/
def openBlocks : Nat → Reading → Nat → Bool → Line → Reading × Nat × Bool × Option Line
  | 0, r, inner, fits, l => (r, inner, fits, some l)
  | n + 1, r, inner, fits, l =>
    let paragraph := match r.leaf with
      | .paragraph _ => true
      | _ => false
    let direct := paragraph && fits && inner = 0
    let closed := (r.closeInner inner).closeLeaf
    let body := l.body
    let rest := l.skipIndent
    if l.isBlank then (r, inner, fits, some l)
    else if l.indent ≥ 4 then
      if paragraph then (r, inner, fits, some l)
      else ({ closed with leaf := .indented [(l.skipColumns 4).content] }, 0, true, none)
    else if body.head? == some '>' && quoteAllowed (r.frames.drop inner) then
      let rest := rest.skipChars 1
      let rest := if rest.text.head?.any Line.isSpace then rest.stepColumn else rest
      openBlocks n (closed.enter .quote) 0 true rest
    else match Marker.heading? body with
    | some (level, text) => (closed.add (.heading level text), 0, true, none)
    | none =>
    match Marker.fence? body with
    | some (mark, size, info) =>
      ({ closed with leaf := .fenced mark size l.indent info [] }, 0, true, none)
    | none =>
    match (Marker.markup? body).filter fun m => m.2 || !paragraph with
    | some (ending, _) =>
      let opened := { closed with leaf := .html ending [l.content] }
      let done := match ending with
        | .at text => occursIn text (body.drop (openingSize body))
        | .blankLine => false
      (if done then opened.closeLeaf else opened, 0, true, none)
    | none =>
    let heading? := if direct then
        match r.leaf, Marker.underline? body with
        | .paragraph lines, some level =>
          let (settled, text) := { r with leaf := .none }.settle lines
          if text.isEmpty then none else some (settled.add (.heading level text))
        | _, _ => none
      else none
    match heading? with
    | some r => (r, 0, true, none)
    | none =>
    if Marker.isRule body then (closed.add .rule, 0, true, none)
    else match (Marker.bullet? body).filter fun b =>
        listAllowed (r.frames.drop inner) &&
          !(direct && ((b.ordered && b.number ≠ 1) || (body.drop b.size).all Line.isSpace)) with
    | some b =>
      let rest := rest.skipChars b.size
      let width := rest.indent
      let near := rest.isBlank || width ≥ 5
      let rest := rest.skipColumns (if near then 1 else width)
      let padding := b.size + if near then 1 else width
      openBlocks n (closed.enter (.item b.ordered b.mark (l.indent + padding))) 0 true rest
    | none => (r, inner, fits, some l)

/-- Add a line to a leaf that takes lines as they are. The answer is nothing if the leaf does
not take this one. -/
def addVerbatim (r : Reading) (l : Line) : Option Reading :=
  match r.leaf with
  | .fenced mark size indent info lines =>
    if l.indent ≤ 3 && Marker.closesFence mark size l.body then some r.closeLeaf
    else some { r with
      leaf := .fenced mark size indent info ((l.skipColumns indent).content :: lines) }
  | .indented lines =>
    if l.indent ≥ 4 then some { r with leaf := .indented ((l.skipColumns 4).content :: lines) }
    else if l.isBlank then some { r with leaf := .indented ([] :: lines) }
    else none
  | .html ending lines =>
    if ending = .blankLine && l.isBlank then none
    else
      let r := { r with leaf := .html ending (l.content :: lines) }
      match ending with
      | .at text => some (if occursIn text l.text then r.closeLeaf else r)
      | .blankLine => some r
  | _ => none

/-- Read one line. -/
def readLine (r : Reading) (text : List Char) : Reading :=
  let (matched, l) := continued r.leaf r.frames.reverse { text }
  let inner := r.frames.length - matched
  match if inner = 0 then addVerbatim r l else none with
  | some r => r
  | none =>
    let fits := match r.leaf with
      | .paragraph _ => !l.isBlank
      | _ => false
    match openBlocks (text.length + 1) r inner fits l with
    | (r, _, _, none) => r
    | (r, inner, _, some l) =>
      match r.leaf with
      | .paragraph lines =>
        if l.isBlank then (r.closeInner inner).closeLeaf
        else { r with leaf := .paragraph (l.body :: lines) }
      | _ =>
        let r := (r.closeInner inner).closeLeaf
        if l.isBlank then r else { r with leaf := .paragraph [l.body] }

/-- The blocks and definitions of a document given by its lines. -/
def ofLines (lines : List (List Char)) : List Draft × Definitions :=
  let r := lines.foldl readLine {}
  let r := (r.closeInner r.frames.length).closeLeaf
  ((r.frames.headD ⟨.document, []⟩).children.reverse, r.definitions.reverse)

end Draft

end WebClip.Markdown
