import WebClip.Markdown.Read
import WebClip.Page.Document
import WebClip.Proofs.Readings
/-!
# Lines that begin headings

A line that begins with a number sign and a space ends whatever it can end. It is a heading of the document then, and
what is behind it is read as if it were a document of its own. Only code between fences and markup take it as it is,
and they only where no list and no quote holds them, since such a line ends lists and quotes with all that they hold.
-/

namespace WebClip.Markdown

open WebClip.Text

namespace Draft

/-- The lines that a leaf has taken as they are, newest first, and the block that it makes of them. -/
def Leaf.held? : Leaf → Option (List (List Char) × (List Char → Draft))
  | .fenced _ _ _ info lines => some (lines, .code info)
  | .html _ lines => some (lines, .html)
  | .none | .paragraph _ | .indented _ => Option.none

/-- Whether code between fences or markup is open in the document and nothing else is. -/
def isHolding (r : Reading) : Bool := r.frames.length == 1 && r.leaf.held?.isSome

/-- Whether lines leave code between fences or markup open that no list and no quote holds. -/
def leavesOpen (lines : List (List Char)) : Bool := isHolding (lines.foldl readLine {})

/-- A line that begins with a number sign and a space. -/
def headingLine (text : List Char) : List Char := '#' :: ' ' :: text

section
variable {r : Reading} (text : List Char)

theorem heading?_headingLine : Marker.heading? (headingLine text) = some (1, Marker.dropClosing (' ' :: text)) := rfl

theorem isBlank_headingLine : Line.isBlank { text := headingLine text } = false := rfl

theorem indent_headingLine : Line.indent { text := headingLine text } = 0 := rfl

theorem body_headingLine : Line.body { text := headingLine text } = headingLine text := rfl

theorem skipColumns_headingLine (n : Nat) :
    Line.skipColumns n { text := headingLine text } = { text := headingLine text } := by
  induction n with
  | zero => rfl
  | succ n ih => exact ih

/-- No container in the document goes on with such a line. -/
theorem continued_headingLine (leaf : Leaf) {inner : List Frame} (h : ∀ f ∈ inner, f.container.IsInner) :
    continued leaf inner { text := headingLine text } = (0, { text := headingLine text }) := by
  cases inner with
  | nil => rfl
  | cons f rest =>
    have hf : f.container.IsInner := h f List.mem_cons_self
    have hnone (empty : Bool) : continue? f empty { text := headingLine text } = none := by
      unfold continue?
      cases hc : f.container with
      | document =>
        rw [hc] at hf
        exact hf.elim
      | quote => rfl
      | item ordered mark width =>
        rw [hc] at hf
        have hwidth : 0 < width := hf
        dsimp only
        rw [isBlank_headingLine, indent_headingLine, if_neg Bool.false_ne_true, if_neg (by omega)]
    unfold continued
    rw [hnone]

/-- Such a line is no more code by its indentation than it ends a paragraph or begins a block. -/
theorem addVerbatim_headingLine (h : r.leaf.held? = none) : addVerbatim r { text := headingLine text } = none := by
  unfold addVerbatim
  cases hleaf : r.leaf with
  | none => rfl
  | paragraph lines => rfl
  | indented lines =>
    dsimp only
    rw [indent_headingLine, isBlank_headingLine, if_neg (by omega), if_neg Bool.false_ne_true]
  | fenced mark size indent info lines =>
    rw [hleaf] at h
    cases h
  | html ending lines =>
    rw [hleaf] at h
    cases h

theorem openBlocks_headingLine (n inner : Nat) (fits : Bool) :
    openBlocks (n + 1) r inner fits { text := headingLine text } =
      ((r.closeInner inner).closeLeaf.add (.heading 1 (Marker.dropClosing (' ' :: text))), 0, true, none) := by
  have hquote : ((headingLine text).head? == some '>') = false := rfl
  rw [openBlocks]
  dsimp only
  rw [isBlank_headingLine, indent_headingLine, body_headingLine, hquote, heading?_headingLine, if_neg Bool.false_ne_true,
    if_neg (by omega), Bool.false_and, if_neg Bool.false_ne_true]

/-- Where nothing takes it as it is, such a line closes all that is open and is a heading behind it. -/
theorem readLine_heading (h : Sound r) (hopen : isHolding r = false) :
    readLine r (headingLine text) = (closed r).add (.heading 1 (Marker.dropClosing (' ' :: text))) := by
  obtain ⟨inner, children, hr, -, hinner⟩ := h.frames
  have hcontinued : continued r.leaf r.frames.reverse { text := headingLine text } =
      (1, { text := headingLine text }) := by
    rw [hr, List.reverse_concat, continued_document, continued_headingLine text r.leaf (by simpa using hinner)]
  have hverbatim : (if r.frames.length - 1 = 0 then addVerbatim r { text := headingLine text } else none) = none := by
    split
    next hone =>
      have hlength : r.frames.length = 1 := by
        rw [hr, List.length_append, List.length_singleton] at hone ⊢
        omega
      refine addVerbatim_headingLine text ?_
      simpa [isHolding, hlength] using hopen
    next => rfl
  rw [readLine, hcontinued]
  dsimp only
  rw [hverbatim]
  dsimp only
  rw [openBlocks_headingLine, ← closed_eq h]

end

/-! ## Headings -/

/-- A heading parts a document: what is before it and what is behind it are read as documents of their own. -/
theorem ofLines_heading {front : List (List Char)} (h : leavesOpen front = false) (text : List Char)
    (back : List (List Char)) :
    (ofLines (front ++ headingLine text :: back)).1 =
      (ofLines front).1 ++ .heading 1 (Marker.dropClosing (' ' :: text)) :: (ofLines back).1 := by
  have hsound := sound_lines front
  have hadd (d : Draft) (children : List Draft) (definitions : Definitions) :
      (settled children definitions).add d = settled (d :: children) definitions := rfl
  rw [ofLines_eq, ofLines_eq, ofLines_eq, List.foldl_append, List.foldl_cons, readLine_heading text hsound h,
    closed_eq_settled hsound, hadd, blocksOf_settled rfl, List.reverse_append, List.reverse_cons, List.append_assoc,
    List.singleton_append]

/-! ## Code and markup -/

section
variable {children : List Draft} {leaf : Leaf} {lines : List (List Char)} {make : List Char → Draft}
  (definitions : Definitions)

theorem held?_cases (h : leaf.held? = some (lines, make)) :
    (∃ mark size indent info, leaf = .fenced mark size indent info lines ∧ make = .code info) ∨
      ∃ ending, leaf = .html ending lines ∧ make = .html := by
  cases leaf with
  | fenced mark size indent info held =>
    obtain ⟨rfl, rfl⟩ := Prod.mk.injEq .. ▸ Option.some.inj h
    exact .inl ⟨mark, size, indent, info, rfl, rfl⟩
  | html ending held =>
    obtain ⟨rfl, rfl⟩ := Prod.mk.injEq .. ▸ Option.some.inj h
    exact .inr ⟨ending, rfl, rfl⟩
  | _ => cases h

theorem closed_held (h : leaf.held? = some (lines, make)) :
    closed ⟨[⟨.document, children⟩], leaf, definitions⟩ = settled (make (endLines lines) :: children) definitions := by
  rcases held?_cases h with ⟨mark, size, indent, info, rfl, rfl⟩ | ⟨ending, rfl, rfl⟩ <;> rfl

/-- In the document itself a line goes to open code or markup first. -/
theorem continued_document_alone {r : Reading} (h : r.frames = [⟨.document, children⟩]) (l : Line) :
    continued r.leaf r.frames.reverse l = (1, l) ∧ r.frames.length - 1 = 0 := by
  rw [h]
  exact ⟨rfl, rfl⟩

theorem readLine_of_verbatim {line : List Char} {r : Reading}
    (h : addVerbatim ⟨[⟨.document, children⟩], leaf, definitions⟩ { text := line } = some r) :
    readLine ⟨[⟨.document, children⟩], leaf, definitions⟩ line = r := by
  obtain ⟨hcontinued, hlength⟩ :=
    continued_document_alone (r := ⟨[⟨.document, children⟩], leaf, definitions⟩) rfl { text := line }
  rw [readLine, hcontinued]
  dsimp only
  rw [if_pos hlength, h]

theorem openBlocks_blank {l : Line} (h : l.isBlank = true) (n : Nat) (r : Reading) (inner : Nat) (fits : Bool) :
    openBlocks (n + 1) r inner fits l = (r, inner, fits, some l) := by
  rw [openBlocks]
  simp only [h, if_true]

/-- Markup that a blank line ends does not take that line. -/
theorem readLine_html_blank {line : List Char} (hblank : Line.isBlank { text := line } = true) :
    readLine ⟨[⟨.document, children⟩], .html .blankLine lines, definitions⟩ line =
      settled (.html (endLines lines) :: children) definitions := by
  have hnone : addVerbatim ⟨[⟨.document, children⟩], .html .blankLine lines, definitions⟩ { text := line } = none := by
    unfold addVerbatim
    simp [hblank]
  obtain ⟨hcontinued, hlength⟩ := continued_document_alone
    (r := ⟨[⟨.document, children⟩], .html .blankLine lines, definitions⟩) rfl { text := line }
  rw [readLine, hcontinued]
  dsimp only
  rw [if_pos hlength, hnone]
  dsimp only
  rw [openBlocks_blank hblank]
  dsimp only
  rw [hblank]
  rfl

theorem addVerbatim_html {ending : Marker.MarkupEnd} {l : Line}
    (h : ¬(decide (ending = .blankLine) && l.isBlank) = true) :
    addVerbatim ⟨[⟨.document, children⟩], .html ending lines, definitions⟩ l =
        some ⟨[⟨.document, children⟩], .html ending (l.content :: lines), definitions⟩ ∨
      addVerbatim ⟨[⟨.document, children⟩], .html ending lines, definitions⟩ l =
        some (settled (.html (endLines (l.content :: lines)) :: children) definitions) := by
  unfold addVerbatim
  dsimp only
  rw [if_neg h]
  rcases ending with text | _
  · dsimp only
    split
    · exact .inr rfl
    · exact .inl rfl
  · exact .inl rfl

/-- A line behind open code or markup is taken by it, or is taken as its last one, or ends it. -/
theorem readLine_held (h : leaf.held? = some (lines, make)) (line : List Char) :
    (∃ taken next, readLine ⟨[⟨.document, children⟩], leaf, definitions⟩ line =
        ⟨[⟨.document, children⟩], next, definitions⟩ ∧ next.held? = some (taken :: lines, make)) ∨
      ∃ added, readLine ⟨[⟨.document, children⟩], leaf, definitions⟩ line =
        settled (make (endLines (added ++ lines)) :: children) definitions := by
  rcases held?_cases h with ⟨mark, size, indent, info, rfl, rfl⟩ | ⟨ending, rfl, rfl⟩
  · by_cases hcloses :
        (decide (Line.indent { text := line } ≤ 3) && Marker.closesFence mark size (Line.body { text := line })) = true
    · exact .inr ⟨[], readLine_of_verbatim definitions (if_pos hcloses)⟩
    · exact .inl ⟨_, .fenced mark size indent info _, readLine_of_verbatim definitions (if_neg hcloses), rfl⟩
  · by_cases hends : (decide (ending = .blankLine) && Line.isBlank { text := line }) = true
    · obtain ⟨hending, hblank⟩ := Bool.and_eq_true_iff.1 hends
      obtain rfl := of_decide_eq_true hending
      exact .inr ⟨[], readLine_html_blank definitions hblank⟩
    · rcases addVerbatim_html definitions hends with hadd | hadd
      · exact .inl ⟨_, _, readLine_of_verbatim definitions hadd, rfl⟩
      · exact .inr ⟨[_], readLine_of_verbatim definitions hadd⟩

/-- A line that begins like a heading does not end open code or markup, but is taken by it as it is. -/
theorem readLine_held_headingLine (hsound : leaf.IsSound) (h : leaf.held? = some (lines, make)) (text : List Char) :
    (∃ next, readLine ⟨[⟨.document, children⟩], leaf, definitions⟩ (headingLine text) =
        ⟨[⟨.document, children⟩], next, definitions⟩ ∧ next.held? = some (headingLine text :: lines, make)) ∨
      readLine ⟨[⟨.document, children⟩], leaf, definitions⟩ (headingLine text) =
        settled (make (endLines (headingLine text :: lines)) :: children) definitions := by
  rcases held?_cases h with ⟨mark, size, indent, info, rfl, rfl⟩ | ⟨ending, rfl, rfl⟩
  · obtain ⟨hmark, hsize⟩ : mark ≠ '#' ∧ 0 < size := hsound
    have hopen : ¬(decide (Line.indent { text := headingLine text } ≤ 3) &&
        Marker.closesFence mark size (Line.body { text := headingLine text })) = true := by
      rw [body_headingLine]
      simp [Marker.closesFence, headingLine, Ne.symm hmark]
      omega
    have hadd : addVerbatim ⟨[⟨.document, children⟩], .fenced mark size indent info lines, definitions⟩
        { text := headingLine text } =
        some ⟨[⟨.document, children⟩], .fenced mark size indent info
          ((Line.skipColumns indent { text := headingLine text }).content :: lines), definitions⟩ := if_neg hopen
    rw [skipColumns_headingLine] at hadd
    exact .inl ⟨_, readLine_of_verbatim definitions hadd, rfl⟩
  · have hopen : ¬(decide (ending = .blankLine) && Line.isBlank { text := headingLine text }) = true := by
      rw [isBlank_headingLine, Bool.and_false]
      exact Bool.false_ne_true
    rcases addVerbatim_html definitions hopen with hadd | hadd
    · exact .inl ⟨_, readLine_of_verbatim definitions hadd, rfl⟩
    · exact .inr (readLine_of_verbatim definitions hadd)

/-- What a leaf has taken is no list. -/
theorem endsInList_held (h : leaf.held? = some (lines, make)) (text : List Char) (rest : List Draft) :
    endsInList (make text :: rest) = false := by
  rcases held?_cases h with ⟨mark, size, indent, info, -, rfl⟩ | ⟨ending, -, rfl⟩ <;> rfl

/-- Whatever comes behind open code or markup, one block has all of the lines that it has taken so far. -/
theorem blocksOf_held (h : leaf.held? = some (lines, make)) (back : List (List Char)) :
    ∃ later more, blocksOf (back.foldl readLine ⟨[⟨.document, children⟩], leaf, definitions⟩) =
      later ++ make (endLines (more ++ lines)) :: children := by
  induction back generalizing leaf lines with
  | nil => exact ⟨[], [], by rw [List.foldl_nil, blocksOf, closed_held definitions h]; rfl⟩
  | cons line rest ih =>
    rw [List.foldl_cons]
    rcases readLine_held definitions h line with ⟨taken, next, hread, hnext⟩ | ⟨added, hread⟩
    · obtain ⟨later, more, hblocks⟩ := ih hnext
      exact ⟨later, more ++ [taken], by rw [hread, hblocks, List.append_assoc, List.singleton_append]⟩
    · exact ⟨blocksOf (rest.foldl readLine {}), added, by
        rw [hread, blocksOf_settled (endsInList_held h _ children)]⟩

/-- A reading in which code or markup is open and nothing else is. -/
theorem exists_held {r : Reading} (h : Sound r) (hopen : isHolding r = true) :
    ∃ children lines make, r = ⟨[⟨.document, children⟩], r.leaf, r.definitions⟩ ∧
      r.leaf.held? = some (lines, make) := by
  obtain ⟨hone, hheld⟩ := Bool.and_eq_true_iff.1 hopen
  obtain ⟨⟨lines, make⟩, hheld⟩ := Option.isSome_iff_exists.1 hheld
  obtain ⟨inner, children, hr, -⟩ := h.frames
  rw [hr, List.length_append] at hone
  obtain rfl := List.eq_nil_of_length_eq_zero (Nat.add_right_cancel (of_decide_eq_true hone) : inner.length = 0)
  refine ⟨children, lines, make, ?_, hheld⟩
  obtain ⟨frames, leaf, definitions⟩ := r
  obtain rfl : frames = _ := hr
  rfl

end

theorem endLines_append (newer older : List (List Char)) : endLines (newer ++ older) = endLines older ++ endLines newer := by
  rw [endLines, List.reverse_append, List.flatMap_append]
  rfl

/-- Where code or markup is open that no list and no quote holds, a line that begins like a heading is no heading, but one
of the lines that the code or markup takes. -/
theorem ofLines_held {front : List (List Char)} (h : leavesOpen front = true) (text : List Char)
    (back : List (List Char)) :
    ∃ (make : List Char → Draft) (before later : List Draft) (taken more : List Char),
      ((∃ info, make = .code info) ∨ make = .html) ∧
      (ofLines front).1 = before ++ [make taken] ∧
      (ofLines (front ++ headingLine text :: back)).1 =
        before ++ make (taken ++ (headingLine text ++ '\n' :: more)) :: later := by
  have hsound := sound_lines front
  obtain ⟨children, held, make, hr, hheld⟩ := exists_held hsound h
  have hleaf := hsound.sound
  generalize hreading : front.foldl readLine {} = r at hr hheld hleaf
  have hmake : (∃ info, make = .code info) ∨ make = .html := by
    rcases held?_cases hheld with ⟨mark, size, indent, info, -, rfl⟩ | ⟨ending, -, rfl⟩
    · exact .inl ⟨info, rfl⟩
    · exact .inr rfl
  have hfront : (ofLines front).1 = children.reverse ++ [make (endLines held)] := by
    rw [ofLines_eq, hreading, hr, blocksOf, closed_held r.definitions hheld]
    exact List.reverse_cons
  have hblocks : ∃ later more, blocksOf (back.foldl readLine (readLine r (headingLine text))) =
      later ++ make (endLines (more ++ headingLine text :: held)) :: children := by
    rw [hr]
    rcases readLine_held_headingLine r.definitions hleaf hheld text with ⟨next, hread, hnext⟩ | hread
    · rw [hread]
      exact blocksOf_held r.definitions hnext back
    · exact ⟨blocksOf (back.foldl readLine {}), [], by
        rw [hread, blocksOf_settled (endsInList_held hheld _ children)]; rfl⟩
  obtain ⟨later, more, hblocks⟩ := hblocks
  have htext : endLines (more ++ headingLine text :: held) =
      endLines held ++ (headingLine text ++ '\n' :: endLines more) := by
    rw [endLines_append, ← List.singleton_append, endLines_append, List.append_assoc]
    simp [endLines]
  refine ⟨make, children.reverse, later.reverse, endLines held, endLines more, hmake, hfront, ?_⟩
  rw [ofLines_eq, List.foldl_append, List.foldl_cons, hreading, hblocks, List.reverse_append, List.reverse_cons,
    List.append_assoc, List.singleton_append, htext]

end Draft

/-! ## Blocks -/

theorem toBlocks_append (definitions : Definitions) (front back : List Draft) :
    Draft.toBlocks definitions (front ++ back) = Draft.toBlocks definitions front ++ Draft.toBlocks definitions back := by
  induction front with
  | nil => rfl
  | cons d rest ih => rw [List.cons_append, Draft.toBlocks, ih, Draft.toBlocks, List.cons_append]

/-- The definitions of links in a document. -/
def definitionsOf (document : String) : Definitions := (Draft.ofLines (linesOf document.toList)).2

/-- The blocks of lines on their own, with the definitions of a document. -/
def blocksIn (document : String) (lines : List (List Char)) : List Block :=
  Draft.toBlocks (definitionsOf document) (Draft.ofLines lines).1

/-- What a heading of a document says that is begun by a line. -/
def headingOf (document : String) (text : List Char) : List Inline :=
  inlines (definitionsOf document) (Marker.dropClosing (' ' :: text))

section
variable {document : String} {front back : List (List Char)} {text : List Char}

theorem read_eq (document : String) : read document = blocksIn document (linesOf document.toList) := rfl

theorem read_heading (hlines : linesOf document.toList = front ++ Draft.headingLine text :: back)
    (h : Draft.leavesOpen front = false) :
    read document = blocksIn document front ++
      .heading (.int 1) (headingOf document text) :: blocksIn document back := by
  rw [read_eq, hlines, blocksIn, Draft.ofLines_heading h, toBlocks_append]
  rfl

theorem read_held (hlines : linesOf document.toList = front ++ Draft.headingLine text :: back)
    (h : Draft.leavesOpen front = true) :
    ∃ (make : String → Block) (before later : List Block) (taken more : List Char),
      ((∃ info, make = .code info) ∨ make = .html) ∧
      blocksIn document front = before ++ [make (String.ofList taken)] ∧
      read document =
        before ++ make (String.ofList (taken ++ (Draft.headingLine text ++ '\n' :: more))) :: later := by
  obtain ⟨make, before, later, taken, more, hmake, hfront, hall⟩ := Draft.ofLines_held h text back
  have hblock : ∃ made : String → Block, ((∃ info, made = .code info) ∨ made = .html) ∧
      ∀ raw, (make raw).toBlock (definitionsOf document) = made (String.ofList raw) := by
    rcases hmake with ⟨info, rfl⟩ | rfl
    · exact ⟨_, .inl ⟨_, rfl⟩, fun _ => rfl⟩
    · exact ⟨_, .inr rfl, fun _ => rfl⟩
  obtain ⟨made, hkind, hmade⟩ := hblock
  refine ⟨made, Draft.toBlocks (definitionsOf document) before, Draft.toBlocks (definitionsOf document) later,
    taken, more, hkind, ?_, ?_⟩
  · rw [blocksIn, hfront, toBlocks_append, ← hmade]
    rfl
  · rw [read_eq, hlines, blocksIn, hall, toBlocks_append, ← hmade]
    rfl

/-- What is read of a document with such a heading. -/
theorem nodes_heading (hlines : linesOf document.toList = front ++ Draft.headingLine text :: back)
    (h : Draft.leavesOpen front = false) {base : Option String} {nodes : List Page.Node}
    (hnodes : Page.nodesOf base (read document) = .ok nodes) :
    nodes = Page.Node.ofBlocks base (blocksIn document front) ++
      .heading (.int 1) (some (Page.Node.spansOf base (headingOf document text))) ::
        Page.Node.ofBlocks base (blocksIn document back) := by
  have hall : nodes = Page.Node.ofBlocks base (read document) := by
    unfold Page.nodesOf at hnodes
    split at hnodes
    · cases hnodes
    · exact (Except.ok.inj hnodes).symm
  rw [hall, read_heading hlines h]
  unfold Page.Node.ofBlocks
  rw [List.flatMap_append, List.flatMap_cons]
  rfl

end

end WebClip.Markdown
