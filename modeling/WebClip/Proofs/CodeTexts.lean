import WebClip.Proofs.MarkupImages
import WebClip.Proofs.Merging
import WebClip.Proofs.Targets
/-!
# The text of code

A block of code that no quote stands around is told as it is, cut at the limit. Any other code is part
of the text of a node, where it is decoded like the rest, unless the node falls back to its plain text.
Code that describes an image is part of its caption, and is not decoded there.
-/

namespace WebClip.Page

open WebClip.Text WebClip.Markdown

/-! ## Places in inline content -/

/-- A piece of inline content in a wrapper. -/
def Wrapper.wrap (children : List Inline) : Wrapper → Inline
  | strong => .strong children
  | emphasis => .emphasis children
  | strikethrough => .strikethrough children
  | link url => .link url children

/-- A place in a piece of inline content that is in no image. -/
inductive Spot where
  | here
  | wrapped (w : Wrapper) (before : List Inline) (inner : Spot) (after : List Inline)
  | grouped (before : List Inline) (inner : Spot) (after : List Inline)

namespace Spot

/-- What stands there with a piece in the place. -/
def fill (i : Inline) : Spot → Inline
  | here => i
  | wrapped w before inner after => w.wrap (before ++ inner.fill i :: after)
  | grouped before inner after => .group (before ++ inner.fill i :: after)

/-- The wrappers around the place, the innermost first. -/
def wrappers (around : List Wrapper) : Spot → List Wrapper
  | here => around
  | wrapped w _ inner _ => inner.wrappers (w :: around)
  | grouped _ inner _ => inner.wrappers around

end Spot

/-- A heading or a paragraph with a place in its content. -/
structure Passage where
  /-- The level of a heading. -/
  level? : Option Value
  before : List Inline
  spot : Spot
  after : List Inline

namespace Passage

/-- Its content with a piece in the place. -/
def content (p : Passage) (i : Inline) : List Inline := p.before ++ p.spot.fill i :: p.after

/-- The heading or the paragraph. -/
def fill (p : Passage) (i : Inline) : Markdown.Block :=
  match p.level? with
  | some level => .heading level (p.content i)
  | none => .paragraph (p.content i)

/-- The wrappers around the place. -/
def wrappers (p : Passage) : List Wrapper := p.spot.wrappers []

end Passage

theorem ofInline_wrap (around : List Wrapper) (w : Wrapper) (children : List Inline) :
    Span.ofInline (Wrapper.marks around) (Wrapper.innermost around) (w.wrap children) =
      Span.ofInlines (Wrapper.marks (w :: around)) (Wrapper.innermost (w :: around)) children := by
  cases w with
  | link url =>
    rw [innermost_cons_link]
    rfl
  | _ => rfl

theorem ofInlines_append (marks : Marks) (link : Option String) (xs ys : List Inline) :
    Span.ofInlines marks link (xs ++ ys) = Span.ofInlines marks link xs ++ Span.ofInlines marks link ys := by
  induction xs with
  | nil => rfl
  | cons i rest ih => rw [List.cons_append, Span.ofInlines, Span.ofInlines, ih, List.append_assoc]

theorem shownOf_append (xs ys : List Inline) : shownOf (xs ++ ys) = shownOf xs ++ shownOf ys := by
  induction xs with
  | nil => rfl
  | cons i rest ih => rw [List.cons_append, shownOf, shownOf, ih, List.append_assoc]

theorem shown_wrap (w : Wrapper) (children : List Inline) : shown (w.wrap children) = shownOf children := by
  cases w <;> rw [Wrapper.wrap, shown]

/-- The spans of a piece stand between those around it, in one place whatever the piece is, with the formatting and
the link of the wrappers around it. -/
theorem exists_ofInline_fill (spot : Spot) (around : List Wrapper) :
    ∃ front back, ∀ i, Span.ofInline (Wrapper.marks around) (Wrapper.innermost around) (spot.fill i) =
      front ++ Span.ofInline (Wrapper.marks (spot.wrappers around)) (Wrapper.innermost (spot.wrappers around)) i ++
        back := by
  induction spot generalizing around with
  | here => exact ⟨[], [], fun i => by rw [Spot.fill, Spot.wrappers, List.nil_append, List.append_nil]⟩
  | wrapped w before inner after ih =>
    obtain ⟨front, back, hinner⟩ := ih (w :: around)
    let spans := Span.ofInlines (Wrapper.marks (w :: around)) (Wrapper.innermost (w :: around))
    refine ⟨spans before ++ front, back ++ spans after, fun i => ?_⟩
    rw [Spot.fill, ofInline_wrap, ofInlines_append, Span.ofInlines, hinner, Spot.wrappers]
    simp only [spans, List.append_assoc]
  | grouped before inner after ih =>
    obtain ⟨front, back, hinner⟩ := ih around
    let spans := Span.ofInlines (Wrapper.marks around) (Wrapper.innermost around)
    refine ⟨spans before ++ front, back ++ spans after, fun i => ?_⟩
    rw [Spot.fill, Span.ofInline, ofInlines_append, Span.ofInlines, hinner, Spot.wrappers]
    simp only [spans, List.append_assoc]

/-- What a piece shows is shown between what is shown around it. -/
theorem exists_shown_fill (spot : Spot) : ∃ front back, ∀ i, shown (spot.fill i) = front ++ shown i ++ back := by
  induction spot with
  | here => exact ⟨[], [], fun i => by rw [Spot.fill, List.nil_append, List.append_nil]⟩
  | wrapped w before inner after ih =>
    obtain ⟨front, back, hinner⟩ := ih
    refine ⟨shownOf before ++ front, back ++ shownOf after, fun i => ?_⟩
    rw [Spot.fill, shown_wrap, shownOf_append, shownOf, hinner]
    simp only [List.append_assoc]
  | grouped before inner after ih =>
    obtain ⟨front, back, hinner⟩ := ih
    refine ⟨shownOf before ++ front, back ++ shownOf after, fun i => ?_⟩
    rw [Spot.fill, shown, shownOf_append, shownOf, hinner]
    simp only [List.append_assoc]

/-- A span with its image URL made absolute. -/
def Span.absolute (base : Option String) (s : Span) : Span := { s with image := s.image.map (Node.resolve base) }

theorem exists_spansOf_content (base : Option String) (p : Passage) :
    ∃ front back, ∀ i, Node.spansOf base (p.content i) = front ++
      (Span.ofInline (Wrapper.marks p.wrappers) (Wrapper.innermost p.wrappers) i).map (Span.absolute base) ++ back := by
  obtain ⟨front, back, hspot⟩ := exists_ofInline_fill p.spot []
  refine ⟨(Span.ofInlines {} none p.before ++ front).map (Span.absolute base),
    (back ++ Span.ofInlines {} none p.after).map (Span.absolute base), fun i => ?_⟩
  have hspans : Span.ofInlines {} none (p.content i) = Span.ofInlines {} none p.before ++ front ++
      Span.ofInline (Wrapper.marks p.wrappers) (Wrapper.innermost p.wrappers) i ++
        (back ++ Span.ofInlines {} none p.after) := by
    have hi := hspot i
    rw [Passage.content, ofInlines_append, Span.ofInlines]
    change Span.ofInline {} none (p.spot.fill i) = _ at hi
    rw [hi]
    simp only [Passage.wrappers, List.append_assoc]
  rw [Node.spansOf, hspans, List.map_append, List.map_append]
  rfl

/-! ## Places for code -/

/-- Line feeds at the end of a text do not make it visible. -/
theorem blank_of_append {s t : String} {n : Nat} (h : s.toList = t.toList ++ List.replicate n '\n') :
    blank s = blank t := by
  rw [blank, h, List.all_append, blank_replicate, Bool.and_true]
  rfl

/-- A place for code: a block, or a place in inline content. -/
inductive CodePlace where
  | block (info : String)
  | inline (p : Passage)

namespace CodePlace

variable (raw : String)

/-- What stands there with code in the place. -/
def fill : CodePlace → Markdown.Block
  | block info => .code info raw
  | inline p => p.fill (.code raw)

/-- Whether the code is a block. -/
def isBlock : CodePlace → Bool
  | block _ => true
  | inline _ => false

/-- The code as part of a text: a block of it stands there without the line feeds at its end. -/
def text : CodePlace → String
  | block _ => String.ofList (dropEndWhile (· == '\n') raw.toList)
  | inline _ => raw

/-- The formatting of the code as part of a text. Code of a block has none. -/
def marks : CodePlace → Marks
  | block _ => {}
  | inline p => { Wrapper.marks p.wrappers with code := true }

/-- The link of the code as part of a text. -/
def link : CodePlace → Option String
  | block _ => none
  | inline p => Wrapper.innermost p.wrappers

/-- The span of the code as part of a text. -/
def span (place : CodePlace) : Span := { text := place.text raw, marks := place.marks, link := place.link }

variable {raw}

/-- Code loses at most line feeds at its end. -/
theorem text_append (place : CodePlace) (raw : String) :
    ∃ n, raw.toList = (place.text raw).toList ++ List.replicate n '\n' := by
  cases place with
  | inline p => exact ⟨0, by rw [text, List.replicate_zero, List.append_nil]⟩
  | block info =>
    rw [text, String.toList_ofList]
    exact exists_dropEndWhile raw.toList

theorem blank_text (place : CodePlace) (h : blank raw = false) : blank (place.text raw) = false := by
  obtain ⟨n, hn⟩ := place.text_append raw
  rw [← h, blank_of_append hn]

theorem endsLine_span (place : CodePlace) (h : blank raw = false) : (place.span raw).endsLine = false := by
  have hne : place.text raw ≠ "\n" := by
    intro heq
    have hblank := place.blank_text h
    rw [heq] at hblank
    exact absurd hblank (by decide)
  simp [Span.endsLine, span, hne]

theorem exists_spansOf_code (base : Option String) (p : Passage) :
    ∃ front back, ∀ raw, Node.spansOf base (p.content (.code raw)) = front ++ (inline p).span raw :: back := by
  obtain ⟨front, back, hspans⟩ := exists_spansOf_content base p
  refine ⟨front, back, fun raw => ?_⟩
  rw [hspans, List.append_assoc]
  rfl

theorem exists_quotedBlock_code (base : Option String) (place : CodePlace) :
    ∃ front back, ∀ raw, Node.quotedBlock base (place.fill raw) = front ++ place.span raw :: back := by
  cases place with
  | block info =>
    refine ⟨[], [], fun raw => ?_⟩
    rw [fill, Node.quotedBlock]
    rfl
  | inline p =>
    obtain ⟨front, back, hspans⟩ := exists_spansOf_code base p
    refine ⟨front, back, fun raw => ?_⟩
    rw [← hspans, fill, Passage.fill]
    cases p.level? <;> rw [Node.quotedBlock]

end CodePlace

/-! ## Nodes with code -/

/-- A kind of node that has a text. -/
inductive Holder where
  | heading (level : Value)
  | paragraph
  | quote
  | item (ordered : Bool) (depth : Nat)

/-- A node of the kind. -/
def Holder.node (spans : List Span) : Holder → Node
  | heading level => .heading level (some spans)
  | paragraph => .paragraph (some spans)
  | quote => .quote (some spans)
  | item ordered depth => .item ordered (some spans) depth

/-- What there is of a node besides the code in it: nothing but a language, or the spans around the code. -/
inductive Hold where
  | code (language : String)
  | text (holder : Holder) (before after : List Span)

namespace Hold

/-- The node with its code. -/
def node (place : CodePlace) (raw : String) : Hold → Node
  | code language => .code language (Node.codeText raw)
  | text holder before after => holder.node (before ++ place.span raw :: after)

/-- Whether the code is all there is of the node. -/
def isCode : Hold → Bool
  | code _ => true
  | text .. => false

/-- The code as the node has it. -/
def held (place : CodePlace) (raw : String) : Hold → String
  | code _ => Node.codeText raw
  | text .. => place.text raw

end Hold

/-- A paragraph with code in it is one also among images alone. -/
theorem ofParagraph_of_code (p : Passage) {raw : String} (h : blank raw = false) (front back : List Span) :
    Node.ofParagraph (front ++ (CodePlace.inline p).span raw :: back) =
      [.paragraph (some (front ++ (CodePlace.inline p).span raw :: back))] := by
  have hall : ((front ++ (CodePlace.inline p).span raw :: back).all fun s => s.isImage || blank s.text) = false := by
    rw [List.all_eq_false]
    refine ⟨(CodePlace.inline p).span raw, by simp, ?_⟩
    simp [CodePlace.span, CodePlace.text, Span.isImage, h]
  rw [Node.ofParagraph, hall, Bool.and_false]
  rfl

/-- A block around code is a paragraph only where the code stands in the content of that paragraph. -/
theorem here_or_ne_paragraph (site : Site) (place : CodePlace) :
    (site = .here ∧ ∃ p, place = .inline p ∧ p.level? = none) ∨
      ∀ raw children, site.fill (place.fill raw) ≠ .paragraph children := by
  cases site with
  | here =>
    cases place with
    | block info => exact .inr fun raw children h => by cases h
    | inline p =>
      cases hlevel : p.level? with
      | none => exact .inl ⟨rfl, p, rfl, hlevel⟩
      | some level =>
        refine .inr fun raw children h => ?_
        rw [Site.fill, CodePlace.fill, Passage.fill, hlevel] at h
        cases h
  | inItem | inQuote => exact .inr fun raw children h => by cases h

/-- The node with the code stands between the others of its block, in one place whatever the code is. -/
theorem exists_ofBlock_code (base : Option String) (place : CodePlace) (site : Site) (depth : Nat) :
    ∃ (front back : List Node) (hold : Hold), hold.isCode = (place.isBlock && !site.isQuoted) ∧
      ∀ raw, blank raw = false →
        Node.ofBlock base depth (site.fill (place.fill raw)) = front ++ hold.node place raw :: back := by
  induction site generalizing depth with
  | here =>
    cases place with
    | block info =>
      refine ⟨[], [], .code (Node.languageOf info), rfl, fun raw _ => ?_⟩
      rw [Site.fill, CodePlace.fill, Node.ofBlock]
      rfl
    | inline p =>
      obtain ⟨front, back, hspans⟩ := CodePlace.exists_spansOf_code base p
      cases hlevel : p.level? with
      | some level =>
        refine ⟨[], [], .text (.heading level) front back, rfl, fun raw _ => ?_⟩
        rw [Site.fill, CodePlace.fill, Passage.fill, hlevel, Node.ofBlock, hspans]
        rfl
      | none =>
        refine ⟨[], [], .text .paragraph front back, rfl, fun raw hraw => ?_⟩
        rw [Site.fill, CodePlace.fill, Passage.fill, hlevel, Node.ofBlock, hspans, ofParagraph_of_code p hraw]
        rfl
  | inQuote before inner after =>
    obtain ⟨front, back, hcode⟩ := CodePlace.exists_quotedBlock_code base place
    obtain ⟨front', back', hquote⟩ := Node.exists_quotedBlock_fill base (.inQuote before inner after) front back
    refine ⟨[], [], .text .quote front' back', by simp [Hold.isCode, Site.isQuoted], fun raw hraw => ?_⟩
    -- code that says something ends no line, so the quote does not drop it
    have hspans := hquote _ _ (place.endsLine_span hraw) (hcode raw)
    rw [Site.fill, Node.quotedBlock] at hspans
    rw [Site.fill, Node.ofBlock, Node.quoteSpans, hspans]
    rfl
  | inItem ordered itemsBefore before inner after itemsAfter ih =>
    -- only a paragraph of the item itself may join its text
    rcases here_or_ne_paragraph inner place with ⟨rfl, p, rfl, hlevel⟩ | hp
    · obtain ⟨front, back, hspans⟩ := CodePlace.exists_spansOf_code base p
      have hfill (raw : String) : (CodePlace.inline p).fill raw = .paragraph (p.content (.code raw)) := by
        rw [CodePlace.fill, Passage.fill, hlevel]
      rcases Node.exists_paragraph_inItem base depth ordered itemsBefore before after itemsAfter with
        ⟨front', spansBefore, spansAfter, back', hown⟩ | ⟨front', back', hown⟩
      · refine ⟨front', back', .text (.item ordered depth) (spansBefore ++ front) (back ++ spansAfter), rfl,
          fun raw _ => ?_⟩
        rw [Site.fill, Site.fill, hfill, hown _ (by simp [hspans]), hspans]
        simp only [Hold.node, Holder.node, List.append_assoc, List.cons_append]
      · refine ⟨front', back', .text .paragraph front back, rfl, fun raw hraw => ?_⟩
        rw [Site.fill, Site.fill, hfill, hown, hspans, ofParagraph_of_code p hraw]
        simp only [Hold.node, Holder.node, List.append_assoc, List.cons_append, List.nil_append]
    · obtain ⟨front, back, hold, hcode, hinner⟩ := ih (depth + 1)
      obtain ⟨front', back', hown⟩ := Node.exists_ofBlock_inItem base depth ordered itemsBefore before after itemsAfter
      refine ⟨front' ++ front, back ++ back', hold, hcode, fun raw hraw => ?_⟩
      rw [Site.fill, hown _ (hp raw) (by simp [hinner raw hraw]), hinner raw hraw]
      simp only [List.append_assoc, List.cons_append]

/-! ## Blocks with code -/

/-- The parts of a text in blocks of code: together they are the text, none is empty or beyond the limit, and only the
last falls short of it. -/
structure CodeParts (text : String) (parts : List String) : Prop where
  text_eq : parts.flatMap String.toList = text.toList
  lengths : ∀ part ∈ parts, 1 ≤ part.length ∧ part.length ≤ 2000
  full : parts.IsChain fun part _ => part.length = 2000

theorem codeParts_cutText (text : String) : CodeParts text (cutText maxTextLength text) where
  text_eq := flatMap_cutText maxTextLength text
  lengths _ hpart := length_of_mem_cutText (by decide) hpart
  full := isChain_cutText (by decide) text

/-- A text within the limit is one run. -/
theorem ofText_of_length {text : String} (hpos : 1 ≤ text.length) (hle : text.length ≤ 2000) :
    Run.ofText text = [{ content := text }] := by
  have hchunks : chunks maxTextLength text.toList = [text.toList] := by
    rw [← String.length_toList] at hpos hle
    cases hlist : text.toList with
    | nil => simp [hlist] at hpos
    | cons c rest =>
      rw [hlist, List.length_cons] at hle
      have hshort : rest.length ≤ maxTextLength - 1 := Nat.le_sub_one_of_lt hle
      rw [chunks_cons, List.take_of_length_le hshort, List.drop_eq_nil_of_le hshort, chunks_nil]
  rw [Run.ofText, Run.cut, cutText, hchunks, List.map_singleton, List.map_singleton, String.ofList_toList]

/-- Code that says something is told as it is, in as few blocks as the limit allows. -/
theorem blocks_compileCode {text : String} (h : text ≠ "") (language : String) :
    (compileCode language text).blocks =
      (cutText maxTextLength text).map fun part => .code (Language.ofName language) [{ content := part }] := by
  have hparts := codeParts_cutText text
  have hne : (cutText maxTextLength text).isEmpty = false := by
    rw [List.isEmpty_eq_false_iff]
    intro hnil
    rw [hnil] at hparts
    exact h (String.toList_eq_nil_iff.1 hparts.text_eq.symm)
  simp only [compileCode, hne, Bool.false_eq_true, if_false]
  refine List.map_congr_left fun part hpart => ?_
  rw [ofText_of_length (hparts.lengths part hpart).1 (hparts.lengths part hpart).2]

namespace Holder

variable {spans : List Span}

theorem exists_textBlock? (holder : Holder) (spans : List Span) :
    ∃ b, (holder.node spans).textBlock? = some b ∧ b.runs = Run.ofSpans spans := by
  cases holder <;> exact ⟨_, rfl, rfl⟩

theorem pictures_node (holder : Holder) (spans : List Span) :
    (holder.node spans).pictures = spans.filterMap Span.picture? := by
  cases holder <;> rfl

theorem text?_node (holder : Holder) (spans : List Span) :
    (holder.node spans).text? = some (Span.plainText spans) := by
  cases holder <;> rfl

/-- A node that can be compiled tells what its spans do, and behind its text it shows its images. -/
theorem blocks_of_sound (assets : Assets) {holder : Holder} (h : (holder.node spans).error? = none) :
    ∃ texts : List Block, ((holder.node spans).compile assets 0).blocks =
        texts ++ (spans.filterMap Span.picture?).filterMap (Picture.block? assets) ∧
      (texts.flatMap fun b => Run.styledAll b.runs) = Styled.visible (Run.styledSpans spans) := by
  refine ⟨(holder.node spans).ownBlocks assets, ?_, ?_⟩
  · rw [Node.compile_of_sound h, (Node.compileSound_eq h).1, Node.pictureBlocks, pictures_node]
  · obtain ⟨b, hb, hruns⟩ := holder.exists_textBlock? spans
    have hread : Run.styledAll b.runs = Styled.visible (Run.styledSpans spans) := by
      rw [hruns, Run.styledAll_ofSpans]
      rfl
    have hown : (holder.node spans).ownBlocks assets = [b] ∨ (holder.node spans).ownBlocks assets = [] ∧ b.runs = [] ∧
        (holder.node spans).pictureBlocks assets ≠ [] := ownBlocks_of_text hb
    rcases hown with hown | ⟨hown, hnone, -⟩
    · rw [hown, List.flatMap_singleton, hread]
    · rw [hown, ← hread, hnone]
      rfl

/-- A node that cannot be compiled becomes a paragraph of its plain text. -/
theorem blocks_of_error (assets : Assets) {holder : Holder} {e : Fault} (h : (holder.node spans).error? = some e)
    (ht : blank (Span.plainText spans) = false) :
    ((holder.node spans).compile assets 0).blocks = [.paragraph (Run.ofText (Span.plainText spans))] := by
  rw [Node.blocks_compile_of_error h, Node.fallback, text?_node]
  simp only [ht, Bool.false_eq_true, if_false]
  rfl

end Holder

/-- The code as part of a text, read character by character with its references decoded. -/
def CodePlace.styled (place : CodePlace) (raw : String) : List Styled :=
  (Run.decoded (place.text raw)).toList.map (⟨·, place.marks, place.link.bind target?⟩)

/-- What the blocks of a node tell of the code in it. Where it is all there is of the node, it is told as it is. As part
of a text it is decoded between what else there is in the text, and the images of the text follow, except that a node
that cannot be compiled tells it as it is in a paragraph. -/
def Hold.Tells (assets : Assets) (place : CodePlace) (raw : String) (own : List Block) : Hold → Prop
  | code language => ∃ parts, CodeParts (Node.codeText raw) parts ∧
      own = parts.map fun part => .code (Language.ofName language) [{ content := part }]
  | text holder before after =>
    match (holder.node (before ++ place.span raw :: after)).error? with
    | none => ∃ texts : List Block,
        own = texts ++ ((before ++ after).filterMap Span.picture?).filterMap (Picture.block? assets) ∧
        (texts.flatMap fun b => Run.styledAll b.runs) =
          Styled.visible (Run.styledSpans before ++ place.styled raw ++ Run.styledSpans after)
    | some _ => own = [.paragraph (Run.ofText (Span.plainText before ++ place.text raw ++ Span.plainText after))]

/-- A node has all of its code but for line feeds at the end. -/
theorem Hold.held_append (hold : Hold) (place : CodePlace) (raw : String) :
    ∃ n, raw.toList = (hold.held place raw).toList ++ List.replicate n '\n' := by
  cases hold with
  | code => exact exists_codeText raw
  | text => exact place.text_append raw

theorem plainText_span (place : CodePlace) (raw : String) (before after : List Span) :
    Span.plainText (before ++ place.span raw :: after) =
      Span.plainText before ++ place.text raw ++ Span.plainText after := by
  rw [← String.toList_inj, ← List.singleton_append, plainText_append, plainText_append, CodePlace.span, plainText_one,
    String.toList_append, String.toList_append, List.append_assoc]

/-- A node tells the code in it. -/
theorem Hold.tells (assets : Assets) (hold : Hold) (place : CodePlace) {raw : String} (h : blank raw = false) :
    hold.Tells assets place raw ((hold.node place raw).compile assets 0).blocks := by
  cases hold with
  | code language =>
    have hne : Node.codeText raw ≠ "" := by
      intro hnone
      obtain ⟨n, hn⟩ := exists_codeText raw
      rw [blank_of_append hn, hnone] at h
      exact absurd h (by decide)
    exact ⟨_, codeParts_cutText _, by rw [node, Node.compile_of_sound rfl, Node.compileSound, blocks_compileCode hne]⟩
  | text holder before after =>
    rw [Tells]
    cases herror : (holder.node (before ++ place.span raw :: after)).error? with
    | none =>
      obtain ⟨texts, hblocks, htexts⟩ := Holder.blocks_of_sound assets herror
      have hnone : (place.span raw).picture? = none := rfl
      refine ⟨texts, ?_, ?_⟩
      · rw [node, hblocks, List.filterMap_append, List.filterMap_cons_none hnone, ← List.filterMap_append]
      · rw [htexts, ← List.singleton_append, styledSpans_append, styledSpans_append, CodePlace.span, styledSpans_text,
          ← List.append_assoc]
        rfl
    | some e =>
      have hvisible : blank (Span.plainText (before ++ place.span raw :: after)) = false := by
        have htext : (place.text raw).toList.all isBlank = false := place.blank_text h
        rw [plainText_span, blank, String.toList_append, String.toList_append, List.all_append, List.all_append, htext,
          Bool.and_false, Bool.false_and]
      rw [node, Holder.blocks_of_error assets herror hvisible, plainText_span]

/-! ## Descriptions of images -/

/-- An image with a place in the content that describes it. -/
structure Depiction where
  url : String
  before : List Inline
  spot : Spot
  after : List Inline

/-- The image with a piece in the place. -/
def Depiction.fill (d : Depiction) (i : Inline) : Inline := .image (some d.url) (d.before ++ d.spot.fill i :: d.after)

/-- What describes an image is the text that its content shows, also that of a piece in it. -/
theorem exists_picturesIn_described (base : Option String) (quoted : Bool) (p : Passage) (d : Depiction) :
    ∃ (front back : List Picture) (altBefore altAfter : List Char), ∀ i,
      picturesIn base quoted (p.fill (d.fill i)) =
        front ++ ⟨Node.resolve base d.url, String.ofList (altBefore ++ shown i ++ altAfter)⟩ :: back := by
  obtain ⟨front, back, hspans⟩ := exists_spansOf_content base p
  obtain ⟨altBefore, altAfter, hshown⟩ := exists_shown_fill d.spot
  refine ⟨front.filterMap Span.picture?, back.filterMap Span.picture?, shownOf d.before ++ altBefore,
    altAfter ++ shownOf d.after, fun i => ?_⟩
  have hpictures : picturesIn base quoted (p.fill (d.fill i)) =
      (Node.spansOf base (p.content (d.fill i))).filterMap Span.picture? := by
    rw [Passage.fill]
    cases p.level? <;> rw [picturesIn]
  have halt : Span.plainText (Span.ofInlines {} none (d.before ++ d.spot.fill i :: d.after)) =
      String.ofList (shownOf d.before ++ altBefore ++ shown i ++ (altAfter ++ shownOf d.after)) := by
    rw [← String.toList_inj, plainText_ofInlines, String.toList_ofList, shownOf_append, shownOf, hshown]
    simp only [List.append_assoc]
  rw [hpictures, hspans, List.filterMap_append, List.filterMap_append, Depiction.fill, Span.ofInline, halt,
    List.append_assoc]
  rfl

/-! ## Documents with code -/

/-- Code that says something is told once, between blocks that do not depend on it, and but for line feeds at its end a
node has all of it. Where it is a block outside quotes it is told as it is, in blocks of code that are full except for
the last. Elsewhere it is part of a text and decoded like the rest of it, unless the whole node falls back to its plain
text. What describes an image is its caption without any decoding, also the code in it, which is only left out where it
describes another image in there. -/
theorem compile_code (base : Option String) (assets : Assets) (before after : List Markdown.Block) (site : Site) :
    (∀ place : CodePlace, ∃ (front back : List Block) (hold : Hold), hold.isCode = (place.isBlock && !site.isQuoted) ∧
      ∀ raw, blank raw = false → Node.readError? (before ++ site.fill (place.fill raw) :: after) = none →
        ∃ nodes own, nodesOf base (before ++ site.fill (place.fill raw) :: after) = .ok nodes ∧
          hold.node place raw ∈ nodes ∧ (∃ n, raw.toList = (hold.held place raw).toList ++ List.replicate n '\n') ∧
          (compile assets nodes).blocks = front ++ own ++ back ∧ hold.Tells assets place raw own) ∧
      (∀ (p : Passage) (d : Depiction), ∃ (front back : List Picture) (altBefore altAfter : List Char), ∀ i,
        Node.readError? (before ++ site.fill (p.fill (d.fill i)) :: after) = none →
          ∃ nodes, nodesOf base (before ++ site.fill (p.fill (d.fill i)) :: after) = .ok nodes ∧
            nodes.flatMap Node.pictures =
              front ++ ⟨Node.resolve base d.url, String.ofList (altBefore ++ shown i ++ altAfter)⟩ :: back ∧
            ((∀ n ∈ nodes, n.error? = none) → (compile assets nodes).blocks.filter Block.isImage =
              (nodes.flatMap Node.pictures).filterMap (Picture.block? assets))) ∧
      ∀ picture b, Picture.block? assets picture = some b → Run.text b.runs = picture.alt := by
  refine ⟨?_, ?_, fun picture b => caption_of_block?⟩
  · intro place
    obtain ⟨front, back, hold, hcode, hnodes⟩ := exists_ofBlock_code base place site 0
    let blocks (nodes : List Node) : List Block := nodes.flatMap fun n => (n.compile assets 0).blocks
    refine ⟨blocks (before.flatMap (Node.ofBlock base 0) ++ front),
      blocks (back ++ after.flatMap (Node.ofBlock base 0)), hold, hcode, fun raw hraw hread => ?_⟩
    have hall : Node.ofBlocks base (before ++ site.fill (place.fill raw) :: after) =
        before.flatMap (Node.ofBlock base 0) ++ front ++ hold.node place raw ::
          (back ++ after.flatMap (Node.ofBlock base 0)) := by
      rw [Node.ofBlocks, List.flatMap_append, List.flatMap_cons, hnodes raw hraw]
      simp only [List.append_assoc, List.cons_append]
    refine ⟨_, ((hold.node place raw).compile assets 0).blocks, nodesOf_of_readable hread base, by simp [hall],
      hold.held_append place raw, ?_, hold.tells assets place hraw⟩
    rw [compile, blocks_compileFrom, hall]
    simp only [blocks, List.flatMap_append, List.flatMap_cons, List.append_assoc]
  · intro p d
    obtain ⟨front, back, hsite⟩ := picturesIn_fill base false site
    obtain ⟨front', back', altBefore, altAfter, hp⟩ := exists_picturesIn_described base (false || site.isQuoted) p d
    refine ⟨picturesOf base false before ++ front ++ front', back' ++ back ++ picturesOf base false after, altBefore,
      altAfter, fun i hread => ⟨_, nodesOf_of_readable hread base, ?_, images_compile⟩⟩
    rw [pictures_ofBlocks, picturesOf_append, picturesOf, hsite, hp]
    simp only [List.append_assoc, List.cons_append]

/-- Code with a reference in it is told as it is in a block, but not in a quote or among text. -/
theorem code_decoded :
    nodesOf none [.code "" "&lt;\n", .quote [.code "" "&lt;\n"], .paragraph [.code "&lt;"]] =
        .ok [.code "" "&lt;", .quote (some [.plain "&lt;"]),
          .paragraph (some [{ text := "&lt;", marks := { code := true } }])] ∧
      (compile [] [.code "" "&lt;", .quote (some [.plain "&lt;"]),
          .paragraph (some [{ text := "&lt;", marks := { code := true } }])]).blocks =
        [.code "plain text" [{ content := "&lt;" }], .quote [{ content := "<" }],
          .paragraph [{ content := "<", marks := { code := true } }]] := by
  refine ⟨rfl, ?_⟩
  decide +kernel

end WebClip.Page
