import WebClip.Page.Document
/-!
# Reading a document and its nodes

Read from left to right, the nodes of a document show the visible characters and the images of
its leaves, all of them and in order, every character of inline content with the formatting and
the link of the wrappers around its leaf.
-/

namespace WebClip.Page

open WebClip.Text WebClip.Markdown

/-! ## What a reader meets -/

/-- What a reader meets: a visible character with its formatting and its link, or an image. -/
inductive Glyph where
  | char (c : Char) (marks : Marks) (link : Option String)
  | image (url alt : String)
  deriving DecidableEq

/-- The visible characters of a text. -/
def Glyph.ofText (cs : List Char) (marks : Marks := {}) (link : Option String := none) : List Glyph :=
  (cs.filter (!isBlank ·)).map (char · marks link)

/-- What a reader meets in a span. -/
def Span.glyphs (s : Span) : List Glyph :=
  match s.image with
  | some url => [.image url s.text]
  | none => Glyph.ofText s.text.toList s.marks s.link

/-- What a reader meets in a node. -/
def Node.glyphs : Node → List Glyph
  | .code _ text => Glyph.ofText text.toList
  | .image url alt => [.image url alt]
  | n => (n.spans?.getD []).flatMap Span.glyphs

/-! ## Leaves of inline content -/

/-- What inline content can be wrapped in. -/
inductive Wrapper where
  | strong
  | emphasis
  | strikethrough
  | link (url : Option String)
  deriving DecidableEq

namespace Wrapper

/-- The URL of a link that has one. -/
def url? : Wrapper → Option String
  | link (some url) => if url.isEmpty then none else some url
  | _ => none

/-- The formatting that wrappers give. -/
def marks (around : List Wrapper) : Marks :=
  { bold := around.contains strong, italic := around.contains emphasis,
    strikethrough := around.contains strikethrough }

/-- The URL of the innermost link that has one. -/
def innermost (around : List Wrapper) : Option String := around.findSome? url?

end Wrapper

mutual

/-- The leaves of a piece of inline content, each with the wrappers around it, the innermost
first. An image is a leaf. -/
def leaves (around : List Wrapper) : Inline → List (List Wrapper × Inline)
  | .strong children => leavesOf (.strong :: around) children
  | .emphasis children => leavesOf (.emphasis :: around) children
  | .strikethrough children => leavesOf (.strikethrough :: around) children
  | .link url children => leavesOf (.link url :: around) children
  | .group children => leavesOf around children
  | .text raw => [(around, .text raw)]
  | .code raw => [(around, .code raw)]
  | .softBreak => [(around, .softBreak)]
  | .lineBreak => [(around, .lineBreak)]
  | .html raw => [(around, .html raw)]
  | .other raw => [(around, .other raw)]
  | .image url children => [(around, .image url children)]

/-- The leaves of inline content from left to right. -/
def leavesOf (around : List Wrapper) : List Inline → List (List Wrapper × Inline)
  | [] => []
  | i :: rest => leaves around i ++ leavesOf around rest

end

mutual

/-- The text that a piece of inline content shows, without the images in it. -/
def shown : Inline → List Char
  | .text raw | .code raw | .other raw => raw.toList
  | .softBreak => " ".toList
  | .lineBreak => "\n".toList
  | .html raw => (Span.shownText raw).toList
  | .image (some _) _ => []
  | .strong children | .emphasis children | .strikethrough children | .group children
  | .link _ children | .image none children => shownOf children

/-- The text that inline content shows. -/
def shownOf : List Inline → List Char
  | [] => []
  | i :: rest => shown i ++ shownOf rest

end

/-- What a reader meets at a leaf: an image with its absolute URL and the text that describes it,
or text. An image that has no URL is only its description. -/
def readLeaf (base : Option String) : List Wrapper × Inline → List Glyph
  | (_, .image (some url) children) => [.image (Node.resolve base url) (String.ofList (shownOf children))]
  | (around, .code raw) => Glyph.ofText raw.toList { Wrapper.marks around with code := true } (Wrapper.innermost around)
  | (around, leaf) => Glyph.ofText (shown leaf) (Wrapper.marks around) (Wrapper.innermost around)

/-- What a reader meets in inline content. -/
def readInlines (base : Option String) (children : List Inline) : List Glyph :=
  (leavesOf [] children).flatMap (readLeaf base)

/-! ## Leaves of blocks -/

mutual

/-- What a reader meets in a block, leaf by leaf. -/
def readBlock (base : Option String) : Markdown.Block → List Glyph
  | .heading _ children | .paragraph children => readInlines base children
  | .quote children | .group children => readBlocks base children
  | .list _ items => readItems base items
  | .code _ raw | .html raw => Glyph.ofText raw.toList
  | .blank | .rule | .unknown => []

/-- What a reader meets in blocks from first to last. -/
def readBlocks (base : Option String) : List Markdown.Block → List Glyph
  | [] => []
  | b :: rest => readBlock base b ++ readBlocks base rest

/-- What a reader meets in the items of a list. -/
def readItems (base : Option String) : List (List Markdown.Block) → List Glyph
  | [] => []
  | own :: rest => readBlocks base own ++ readItems base rest

end

mutual

/-- Whether a block is of kinds that documents have, markup of its own apart, all the way down. -/
def isPlain : Markdown.Block → Bool
  | .quote children => arePlain children
  | .list _ items => itemsArePlain items
  | .html _ | .group _ | .unknown => false
  | .blank | .heading .. | .paragraph _ | .code .. | .rule => true

/-- Whether all blocks are. -/
def arePlain : List Markdown.Block → Bool
  | [] => true
  | b :: rest => isPlain b && arePlain rest

/-- Whether all blocks of all items are. -/
def itemsArePlain : List (List Markdown.Block) → Bool
  | [] => true
  | own :: rest => arePlain own && itemsArePlain rest

end

/-! ## Inline content -/

@[simp] theorem plainText_append (a b : List Span) :
    (Span.plainText (a ++ b)).toList = (Span.plainText a).toList ++ (Span.plainText b).toList := by
  simp [Span.plainText]

theorem plainText_one (text : String) (marks : Marks) (link : Option String) :
    (Span.plainText [{ text, marks, link }]).toList = text.toList := by
  simp [Span.plainText, Span.isImage]

mutual

/-- What spans show besides images does not depend on their formatting. -/
theorem plainText_ofInline (marks : Marks) (link : Option String) :
    ∀ i : Inline, (Span.plainText (Span.ofInline marks link i)).toList = shown i
  | .text raw => plainText_one raw marks link
  | .code raw => plainText_one raw { marks with code := true } link
  | .softBreak => plainText_one " " marks link
  | .lineBreak => plainText_one "\n" marks link
  | .other raw => by
    rw [Span.ofInline, shown]
    split
    next h => simp [String.isEmpty_iff.1 h, Span.plainText]
    next => exact plainText_one raw marks link
  | .html raw => by
    rw [Span.ofInline, shown]
    split
    next h => simp [String.isEmpty_iff.1 h, Span.plainText]
    next => exact plainText_one _ marks link
  | .image none children => by
    rw [Span.ofInline, shown, plainText_one, plainText_ofInlines {} none children]
  | .image (some url) children => by
    rw [Span.ofInline, shown]
    simp [Span.plainText, Span.isImage]
  | .strong children => plainText_ofInlines { marks with bold := true } link children
  | .emphasis children => plainText_ofInlines { marks with italic := true } link children
  | .strikethrough children => plainText_ofInlines { marks with strikethrough := true } link children
  | .group children => plainText_ofInlines marks link children
  | .link url children => plainText_ofInlines marks (Span.innerLink url link) children

theorem plainText_ofInlines (marks : Marks) (link : Option String) :
    ∀ children : List Inline, (Span.plainText (Span.ofInlines marks link children)).toList = shownOf children
  | [] => rfl
  | i :: rest => by
    rw [Span.ofInlines, plainText_append, plainText_ofInline marks link i, plainText_ofInlines marks link rest, shownOf]

end

/-! ## Spans -/

/-- What a reader meets in spans whose image URLs are made absolute. -/
def Span.glyphsFrom (base : Option String) (s : Span) : List Glyph :=
  { s with image := s.image.map (Node.resolve base) }.glyphs

theorem innermost_cons_link (url : Option String) (around : List Wrapper) :
    Wrapper.innermost (.link url :: around) = Span.innerLink url (Wrapper.innermost around) := by
  cases url with
  | none => rfl
  | some url =>
    rw [Wrapper.innermost, List.findSome?_cons, Span.innerLink, Wrapper.url?]
    cases url.isEmpty <;> rfl

mutual

/-- The spans of a piece of inline content show what its leaves do. -/
theorem glyphs_ofInline (base : Option String) (around : List Wrapper) :
    ∀ i : Inline, (Span.ofInline (Wrapper.marks around) (Wrapper.innermost around) i).flatMap (Span.glyphsFrom base) =
      (leaves around i).flatMap (readLeaf base)
  | .text _ | .code _ | .softBreak | .lineBreak => rfl
  -- a piece without text has no span, and its leaf shows nothing
  | .other raw => by
    rw [Span.ofInline, leaves]
    split
    next h => simp [readLeaf, shown, String.isEmpty_iff.1 h, Glyph.ofText]
    next => rfl
  | .html raw => by
    rw [Span.ofInline, leaves]
    split
    next h => simp [readLeaf, shown, String.isEmpty_iff.1 h, Glyph.ofText]
    next => rfl
  | .image none children => by
    have h := plainText_ofInlines {} none children
    rw [Span.ofInline, leaves, List.flatMap_singleton, List.flatMap_singleton]
    exact congrArg (Glyph.ofText · (Wrapper.marks around) (Wrapper.innermost around)) h
  | .image (some url) children => by
    rw [Span.ofInline, leaves, List.flatMap_singleton, List.flatMap_singleton, readLeaf,
      ← plainText_ofInlines {} none children, String.ofList_toList]
    rfl
  | .strong children => glyphs_ofInlines base (.strong :: around) children
  | .emphasis children => glyphs_ofInlines base (.emphasis :: around) children
  | .strikethrough children => glyphs_ofInlines base (.strikethrough :: around) children
  | .group children => glyphs_ofInlines base around children
  | .link url children => by
    rw [Span.ofInline, leaves, ← innermost_cons_link]
    exact glyphs_ofInlines base (.link url :: around) children

theorem glyphs_ofInlines (base : Option String) (around : List Wrapper) :
    ∀ children : List Inline,
      (Span.ofInlines (Wrapper.marks around) (Wrapper.innermost around) children).flatMap (Span.glyphsFrom base) =
        (leavesOf around children).flatMap (readLeaf base)
  | [] => rfl
  | i :: rest => by
    rw [Span.ofInlines, leavesOf, List.flatMap_append, List.flatMap_append, glyphs_ofInline base around i,
      glyphs_ofInlines base around rest]

end

@[simp] theorem glyphs_spansOf (base : Option String) (children : List Inline) :
    (Node.spansOf base children).flatMap Span.glyphs = readInlines base children := by
  rw [Node.spansOf, List.flatMap_map]
  exact glyphs_ofInlines base [] children

/-! ## Texts and line ends -/

theorem ofText_eq_nil {cs : List Char} (h : cs.all isBlank = true) (marks : Marks) (link : Option String) :
    Glyph.ofText cs marks link = [] := by
  rw [Glyph.ofText, List.filter_eq_nil_iff.2 fun c hc => by simp [List.all_eq_true.1 h c hc]]
  rfl

theorem ofText_append (a b : List Char) : Glyph.ofText (a ++ b) = Glyph.ofText a ++ Glyph.ofText b := by
  simp [Glyph.ofText]

theorem exists_dropEndWhile (cs : List Char) : ∃ n, cs = dropEndWhile (· == '\n') cs ++ List.replicate n '\n' := by
  refine ⟨(cs.reverse.takeWhile (· == '\n')).length, ?_⟩
  -- what is dropped is line feeds alone
  have hends : (cs.reverse.takeWhile (· == '\n')).reverse =
      List.replicate (cs.reverse.takeWhile (· == '\n')).length '\n' := by
    rw [List.eq_replicate_iff, List.length_reverse]
    refine ⟨rfl, fun c hc => ?_⟩
    simpa using List.all_eq_true.1 List.all_takeWhile c (List.mem_reverse.1 hc)
  rw [dropEndWhile, ← hends, ← List.reverse_append, List.takeWhile_append_dropWhile, List.reverse_reverse]

theorem exists_codeText (raw : String) : ∃ n, raw.toList = (Node.codeText raw).toList ++ List.replicate n '\n' := by
  rw [Node.codeText, String.toList_ofList]
  split
  next hend =>
    obtain ⟨front, hfront⟩ := List.getLast?_eq_some_iff.1 (beq_iff_eq.1 hend)
    exact ⟨1, by rw [hfront, List.dropLast_concat]; rfl⟩
  next => exact ⟨0, (List.append_nil _).symm⟩

theorem blank_replicate (n : Nat) : (List.replicate n '\n').all isBlank = true :=
  List.all_eq_true.2 fun c hc => List.eq_of_mem_replicate hc ▸ by decide

/-- Line feeds at the end of a text are not visible. -/
theorem ofText_of_append {cs cs' : List Char} {n : Nat} (h : cs = cs' ++ List.replicate n '\n') :
    Glyph.ofText cs' = Glyph.ofText cs := by
  rw [h, ofText_append, ofText_eq_nil (blank_replicate n), List.append_nil]

theorem ofText_dropEndWhile (cs : List Char) : Glyph.ofText (dropEndWhile (· == '\n') cs) = Glyph.ofText cs := by
  obtain ⟨n, hn⟩ := exists_dropEndWhile cs
  exact ofText_of_append hn

theorem ofText_codeText (raw : String) : Glyph.ofText (Node.codeText raw).toList = Glyph.ofText raw.toList := by
  obtain ⟨n, hn⟩ := exists_codeText raw
  exact ofText_of_append hn

/-- Whether a span is what ends a line. -/
def Span.endsLine (s : Span) : Bool := s.text = "\n" && !s.isImage

section LineEnds
variable {β : Type} {f : Span → List β} (h : ∀ s : Span, s.endsLine = true → f s = [])
include h

/-- What the ends of lines do not count for does not change with them. -/
theorem flatMap_endLine (spans : List Span) : (Node.endLine spans).flatMap f = spans.flatMap f := by
  unfold Node.endLine
  split
  next hnone => rw [List.isEmpty_iff.1 hnone]
  next => rw [List.flatMap_append, List.flatMap_singleton, h Node.lineEnd (by decide), List.append_nil]

theorem flatMap_dropLineEnd (spans : List Span) : (Node.dropLineEnd spans).flatMap f = spans.flatMap f := by
  unfold Node.dropLineEnd
  split
  next s hs =>
    split
    next hend =>
      obtain ⟨before, rfl⟩ := List.getLast?_eq_some_iff.1 hs
      rw [List.dropLast_concat, List.flatMap_append, List.flatMap_singleton, h s hend, List.append_nil]
    next => rfl
  next hs => rw [List.getLast?_eq_none_iff.1 hs]

end LineEnds

theorem image_of_endsLine {s : Span} (h : s.endsLine = true) : s.image = none := by
  rw [Span.endsLine, Bool.and_eq_true, Span.isImage, Bool.not_eq_true', Option.isSome_eq_false_iff,
    Option.isNone_iff_eq_none] at h
  exact h.2

theorem glyphs_of_endsLine (s : Span) (h : s.endsLine = true) : s.glyphs = [] := by
  have htext : s.text = "\n" := by
    rw [Span.endsLine, Bool.and_eq_true, decide_eq_true_eq] at h
    exact h.1
  rw [Span.glyphs, image_of_endsLine h, htext]
  exact ofText_eq_nil (by decide) _ _

@[simp] theorem glyphs_endLine (spans : List Span) :
    (Node.endLine spans).flatMap Span.glyphs = spans.flatMap Span.glyphs :=
  flatMap_endLine glyphs_of_endsLine spans

@[simp] theorem glyphs_dropLineEnd (spans : List Span) :
    (Node.dropLineEnd spans).flatMap Span.glyphs = spans.flatMap Span.glyphs :=
  flatMap_dropLineEnd glyphs_of_endsLine spans

/-- Blank text between images shows nothing. -/
theorem glyphs_images {spans : List Span} (h : ∀ s ∈ spans, (s.isImage || blank s.text) = true) :
    (spans.filterMap fun s => s.image.map fun url => Node.image url s.text).flatMap Node.glyphs =
      spans.flatMap Span.glyphs := by
  induction spans with
  | nil => rfl
  | cons s rest ih =>
    obtain ⟨hs, hrest⟩ := List.forall_mem_cons.1 h
    rw [List.filterMap_cons, List.flatMap_cons, ← ih hrest, Span.glyphs]
    cases hi : s.image with
    | some url => rfl
    | none =>
      rw [Span.isImage, hi, Option.isSome_none, Bool.false_or] at hs
      rw [ofText_eq_nil hs]
      rfl

/-- A paragraph shows what its spans do, also when only its images become nodes. -/
theorem glyphs_ofParagraph (spans : List Span) :
    (Node.ofParagraph spans).flatMap Node.glyphs = spans.flatMap Span.glyphs := by
  unfold Node.ofParagraph
  split
  next h =>
    rw [Bool.and_eq_true, List.all_eq_true] at h
    exact glyphs_images h.2
  next => exact List.flatMap_singleton _ _

/-! ## Quotes -/

/-- Every block of a quote is on a line of its own, except that a blank line is none. -/
theorem quotedBlocks_cons (base : Option String) (before : List Span) (b : Markdown.Block)
    (rest : List Markdown.Block) :
    b = .blank ∧ Node.quotedBlocks base before (b :: rest) = Node.quotedBlocks base before rest ∨
      Node.quotedBlocks base before (b :: rest) =
        Node.quotedBlocks base (Node.endLine before ++ Node.quotedBlock base b) rest := by
  cases b with
  | blank => exact .inl ⟨rfl, by rw [Node.quotedBlocks]⟩
  | _ => exact .inr (by rw [Node.quotedBlocks]; simp)

mutual

/-- A block in a quote shows the same there. -/
theorem glyphs_quotedBlock (base : Option String) :
    ∀ b : Markdown.Block, isPlain b = true → (Node.quotedBlock base b).flatMap Span.glyphs = readBlock base b
  | .heading _ children, _ | .paragraph children, _ => by
    rw [Node.quotedBlock, glyphs_spansOf, readBlock]
  | .code _ raw, _ => by
    rw [Node.quotedBlock, readBlock, List.flatMap_singleton, ← ofText_dropEndWhile, Span.glyphs]
    dsimp only [Span.plain]
    rw [String.toList_ofList]
  | .quote children, h => by
    rw [Node.quotedBlock, glyphs_dropLineEnd, glyphs_quotedBlocks base [] children h, readBlock]
    rfl
  | .list _ items, h => by
    rw [Node.quotedBlock, glyphs_dropLineEnd, glyphs_quotedItems base [] items h, readBlock]
    rfl
  | .blank, _ | .rule, _ => rfl

theorem glyphs_quotedBlocks (base : Option String) (before : List Span) :
    ∀ blocks : List Markdown.Block, arePlain blocks = true →
      (Node.quotedBlocks base before blocks).flatMap Span.glyphs =
        before.flatMap Span.glyphs ++ readBlocks base blocks
  | [], _ => by rw [Node.quotedBlocks, readBlocks, List.append_nil]
  | b :: rest, h => by
    rw [arePlain, Bool.and_eq_true] at h
    -- a line end between two blocks is not visible, so only the blocks count
    rcases quotedBlocks_cons base before b rest with ⟨hb, he⟩ | he
    · rw [he, glyphs_quotedBlocks base before rest h.2, readBlocks, hb, readBlock, List.nil_append]
    · rw [he, glyphs_quotedBlocks base _ rest h.2, List.flatMap_append, glyphs_endLine,
        glyphs_quotedBlock base b h.1, readBlocks, List.append_assoc]

theorem glyphs_quotedItems (base : Option String) (before : List Span) :
    ∀ items : List (List Markdown.Block), itemsArePlain items = true →
      (Node.quotedItems base before items).flatMap Span.glyphs =
        before.flatMap Span.glyphs ++ readItems base items
  | [], _ => by rw [Node.quotedItems, readItems, List.append_nil]
  | own :: rest, h => by
    rw [itemsArePlain, Bool.and_eq_true] at h
    rw [Node.quotedItems, glyphs_quotedItems base _ rest h.2, List.flatMap_append, glyphs_endLine,
      glyphs_dropLineEnd, glyphs_quotedBlocks base [] own h.1, readItems]
    simp only [List.flatMap_nil, List.nil_append, List.append_assoc]

end

/-- A quote shows what its blocks do. -/
theorem glyphs_quoteSpans (base : Option String) (children : List Markdown.Block) (h : arePlain children = true) :
    (Node.quoteSpans base children).flatMap Span.glyphs = readBlocks base children := by
  rw [Node.quoteSpans, glyphs_dropLineEnd, glyphs_quotedBlocks base [] children h]
  rfl

/-! ## Documents -/

/-- A paragraph of an item joins the item's own text as long as nothing else has come; any other
block follows the item. -/
theorem itemParts_cons (base : Option String) (depth : Nat) (spans : List Span) (others : List Node)
    (b : Markdown.Block) (rest : List Markdown.Block) :
    (∃ children, b = .paragraph children ∧ others = [] ∧ Node.itemParts base depth spans others (b :: rest) =
        Node.itemParts base depth (Node.endLine spans ++ Node.spansOf base children) [] rest) ∨
      Node.itemParts base depth spans others (b :: rest) =
        Node.itemParts base depth spans (others ++ Node.ofBlock base (depth + 1) b) rest := by
  cases b with
  | paragraph children =>
    cases others with
    | nil => exact .inl ⟨children, rfl, rfl, by rw [Node.itemParts]⟩
    | cons n others => exact .inr (by rw [Node.itemParts]; simp)
  | _ => exact .inr (by rw [Node.itemParts]; simp)

mutual

/-- The nodes of a block show what its leaves do. -/
theorem glyphs_ofBlock (base : Option String) (depth : Nat) :
    ∀ b : Markdown.Block, isPlain b = true → (Node.ofBlock base depth b).flatMap Node.glyphs = readBlock base b
  | .heading level children, _ => by
    rw [Node.ofBlock, readBlock, List.flatMap_singleton]
    exact glyphs_spansOf base children
  | .paragraph children, _ => by
    rw [Node.ofBlock, readBlock, glyphs_ofParagraph, glyphs_spansOf]
  | .quote children, h => by
    rw [Node.ofBlock, readBlock, List.flatMap_singleton]
    exact glyphs_quoteSpans base children h
  | .list ordered items, h => by
    rw [Node.ofBlock, readBlock]
    exact glyphs_ofItems base ordered depth items h
  | .code info raw, _ => by
    rw [Node.ofBlock, readBlock, List.flatMap_singleton]
    exact ofText_codeText raw
  | .blank, _ | .rule, _ => rfl

theorem glyphs_ofItems (base : Option String) (ordered : Bool) (depth : Nat) :
    ∀ items : List (List Markdown.Block), itemsArePlain items = true →
      (Node.ofItems base ordered depth items).flatMap Node.glyphs = readItems base items
  | [], _ => rfl
  | own :: rest, h => by
    rw [itemsArePlain, Bool.and_eq_true] at h
    have hown := glyphs_itemParts base depth [] [] own h.1
    rw [Node.ofItems, readItems, ← glyphs_ofItems base ordered depth rest h.2,
      ← List.nil_append (readBlocks base own)]
    rw [List.flatMap_nil, List.flatMap_nil, List.nil_append] at hown
    rw [← hown, List.flatMap_cons, List.flatMap_append, ← List.append_assoc]
    rfl

theorem glyphs_itemParts (base : Option String) (depth : Nat) (spans : List Span) (others : List Node) :
    ∀ own : List Markdown.Block, arePlain own = true →
      (Node.itemParts base depth spans others own).1.flatMap Span.glyphs ++
          (Node.itemParts base depth spans others own).2.flatMap Node.glyphs =
        spans.flatMap Span.glyphs ++ others.flatMap Node.glyphs ++ readBlocks base own
  | [], _ => by rw [Node.itemParts, readBlocks, List.append_nil]
  | b :: rest, h => by
    rw [arePlain, Bool.and_eq_true] at h
    -- a paragraph joins the item's text only while no other node is there to be overtaken
    rcases itemParts_cons base depth spans others b rest with ⟨children, hb, ho, he⟩ | he
    · rw [he, glyphs_itemParts base depth _ [] rest h.2, readBlocks, hb, ho, readBlock, List.flatMap_append,
        glyphs_endLine, glyphs_spansOf]
      simp only [List.flatMap_nil, List.append_nil, List.append_assoc]
    · rw [he, glyphs_itemParts base depth spans _ rest h.2, readBlocks, List.flatMap_append,
        glyphs_ofBlock base (depth + 1) b h.1]
      simp only [List.append_assoc]

end

theorem glyphs_ofBlocks (base : Option String) {document : List Markdown.Block} (h : arePlain document = true) :
    (Node.ofBlocks base document).flatMap Node.glyphs = readBlocks base document := by
  induction document with
  | nil => rfl
  | cons b rest ih =>
    rw [arePlain, Bool.and_eq_true] at h
    rw [readBlocks, ← ih h.2, ← glyphs_ofBlock base 0 b h.1, Node.ofBlocks, List.flatMap_cons, List.flatMap_append]
    rfl

/-- Flattening a document loses, repeats and moves nothing: its nodes show every visible character
and every image of its leaves in their order, a character of inline content with the formatting of
the wrappers around its leaf and the innermost link there that has a URL, an image with its
absolute URL and its description. Only inline markup that nobody can read leaves a document
without nodes. -/
theorem read_nodesOf (base : Option String) {document : List Markdown.Block} (h : arePlain document = true) :
    match Node.readError? document with
    | some e => nodesOf base document = .error (readFault e)
    | none => ∃ nodes, nodesOf base document = .ok nodes ∧
        nodes.flatMap Node.glyphs = readBlocks base document := by
  cases he : Node.readError? document with
  | some e => simp only [nodesOf, he]
  | none =>
    refine ⟨Node.ofBlocks base document, ?_, glyphs_ofBlocks base h⟩
    simp only [nodesOf, he]

/-- A quote with a link around bold text and an image, and an item with a list inside it. -/
def quoteAndList : List Markdown.Block :=
  [.quote [.blank, .paragraph [.link (some "l") [.strong [.text "a"], .image (some "i") [.text "x"]], .text " b"]],
    .list true [[.paragraph [.emphasis [.code "c"]], .list false [[.code "" "d\n"]], .paragraph [.text "e"]]]]

/-- Each of its leaves is met once, in its place. -/
theorem quoteAndList_read :
    arePlain quoteAndList = true ∧ ∃ nodes, nodesOf none quoteAndList = .ok nodes ∧
      nodes.flatMap Node.glyphs =
        [.char 'a' { bold := true } (some "l"), .image "i" "x", .char 'b' {} none,
          .char 'c' { italic := true, code := true } none, .char 'd' {} none, .char 'e' {} none] := by
  have hplain : arePlain quoteAndList = true := by decide
  have hread : Node.readError? quoteAndList = none := by decide
  obtain ⟨nodes, hnodes, hglyphs⟩ : ∃ nodes, nodesOf none quoteAndList = .ok nodes ∧
      nodes.flatMap Node.glyphs = readBlocks none quoteAndList := by
    have h := read_nodesOf none hplain
    rwa [hread] at h
  refine ⟨hplain, nodes, hnodes, hglyphs.trans ?_⟩
  decide +kernel

end WebClip.Page
