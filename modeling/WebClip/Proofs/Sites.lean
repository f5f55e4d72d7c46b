import WebClip.Proofs.Reading
/-!
# Places for a block

A block stands by itself, or in an item of a list or in a quote that does. What becomes of it stands
between what becomes of the blocks around it: its nodes between other nodes, or its spans on a line of
the text of an item or a quote.
-/

namespace WebClip.Page

/-- A place for a block: where it stands by itself, or in an item of a list or in a quote in such a place. -/
inductive Site where
  | here
  | inItem (ordered : Bool) (itemsBefore : List (List Markdown.Block)) (before : List Markdown.Block)
    (inner : Site) (after : List Markdown.Block) (itemsAfter : List (List Markdown.Block))
  | inQuote (before : List Markdown.Block) (inner : Site) (after : List Markdown.Block)

namespace Site

/-- What stands there with a block in the place. -/
def fill (b : Markdown.Block) : Site → Markdown.Block
  | here => b
  | inItem ordered itemsBefore before inner after itemsAfter =>
    .list ordered (itemsBefore ++ (before ++ inner.fill b :: after) :: itemsAfter)
  | inQuote before inner after => .quote (before ++ inner.fill b :: after)

/-- Whether there is a quote around the place. -/
def isQuoted : Site → Bool
  | here => false
  | inItem _ _ _ inner _ _ => inner.isQuoted
  | inQuote .. => true

end Site

theorem nodesOf_of_readable {document : List Markdown.Block} (h : Node.readError? document = none) (base : Option String) :
    nodesOf base document = .ok (Node.ofBlocks base document) := by
  simp only [nodesOf, h]

namespace Node

variable (base : Option String)

/-! ## Spans of a quote -/

theorem dropLineEnd_append {s : Span} (h : s.endsLine = false) (front back : List Span) :
    dropLineEnd (front ++ s :: back) = front ++ s :: dropLineEnd back := by
  cases hback : back.getLast? with
  | none =>
    obtain rfl := List.getLast?_eq_none_iff.1 hback
    have hs : (s.text = "\n" && !s.isImage) = false := h
    simp [dropLineEnd, hs]
  | some last =>
    obtain ⟨most, rfl⟩ := List.getLast?_eq_some_iff.1 hback
    have hall : front ++ s :: (most ++ [last]) = front ++ s :: most ++ [last] := by simp
    rw [dropLineEnd, dropLineEnd, hback, hall, List.getLast?_concat, List.dropLast_concat, List.dropLast_concat]
    dsimp only
    split
    · rfl
    · rw [← hall]

theorem endLine_of_ne_nil {spans : List Span} (h : spans ≠ []) : endLine spans = spans ++ [lineEnd] := by
  rw [endLine, if_neg (by simpa using h)]

theorem quotedBlocks_append (spans : List Span) (xs ys : List Markdown.Block) :
    quotedBlocks base spans (xs ++ ys) = quotedBlocks base (quotedBlocks base spans xs) ys := by
  induction xs generalizing spans with
  | nil => rw [quotedBlocks, List.nil_append]
  | cons b rest ih => cases b <;> rw [List.cons_append, quotedBlocks, quotedBlocks, ih] <;> simp

theorem quotedItems_append (spans : List Span) (xs ys : List (List Markdown.Block)) :
    quotedItems base spans (xs ++ ys) = quotedItems base (quotedItems base spans xs) ys := by
  induction xs generalizing spans with
  | nil => rw [quotedItems, List.nil_append]
  | cons own rest ih => rw [List.cons_append, quotedItems, quotedItems, ih]

/-- What follows spans in a quote does not depend on them, as long as there are any. -/
theorem exists_quotedBlocks (blocks : List Markdown.Block) :
    ∃ rest, ∀ spans ≠ [], quotedBlocks base spans blocks = spans ++ rest := by
  induction blocks with
  | nil => exact ⟨[], fun spans _ => by rw [quotedBlocks, List.append_nil]⟩
  | cons b blocks ih =>
    obtain ⟨rest, hrest⟩ := ih
    by_cases hb : b = .blank
    · refine ⟨rest, fun spans hspans => ?_⟩
      rw [hb, quotedBlocks, hrest spans hspans]
    · refine ⟨lineEnd :: (quotedBlock base b ++ rest), fun spans hspans => ?_⟩
      rcases quotedBlocks_cons base spans b blocks with ⟨hblank, -⟩ | heq
      · exact absurd hblank hb
      · rw [heq, endLine_of_ne_nil hspans, hrest _ (by simp)]
        simp

theorem exists_quotedItems (items : List (List Markdown.Block)) :
    ∃ rest, ∀ spans ≠ [], quotedItems base spans items = spans ++ rest := by
  induction items with
  | nil => exact ⟨[], fun spans _ => by rw [quotedItems, List.append_nil]⟩
  | cons own items ih =>
    obtain ⟨rest, hrest⟩ := ih
    refine ⟨lineEnd :: (dropLineEnd (quotedBlocks base [] own) ++ rest), fun spans hspans => ?_⟩
    rw [quotedItems, endLine_of_ne_nil hspans, hrest _ (by simp)]
    simp

/-- A span of a block is among those of the blocks around it in a quote. -/
theorem exists_quotedBlocks_between (before after : List Markdown.Block) (front back : List Span) :
    ∃ front' back', ∀ b s, s.endsLine = false → quotedBlock base b = front ++ s :: back →
      dropLineEnd (quotedBlocks base [] (before ++ b :: after)) = front' ++ s :: back' := by
  obtain ⟨rest, hrest⟩ := exists_quotedBlocks base after
  refine ⟨endLine (quotedBlocks base [] before) ++ front, dropLineEnd (back ++ rest), fun b s hs hb => ?_⟩
  rcases quotedBlocks_cons base (quotedBlocks base [] before) b after with ⟨rfl, -⟩ | heq
  · rw [quotedBlock] at hb
    simp at hb
  · rw [quotedBlocks_append, heq, hb, hrest _ (by simp), ← dropLineEnd_append hs]
    simp only [List.append_assoc, List.cons_append]

/-- A span of a block is among those of a quote that the block stands in, in one place whatever it is. -/
theorem exists_quotedBlock_fill (site : Site) (front back : List Span) :
    ∃ front' back', ∀ b s, s.endsLine = false → quotedBlock base b = front ++ s :: back →
      quotedBlock base (site.fill b) = front' ++ s :: back' := by
  induction site with
  | here => exact ⟨front, back, fun b s _ hb => hb⟩
  | inQuote before inner after ih =>
    obtain ⟨front, back, hinner⟩ := ih
    obtain ⟨front', back', hown⟩ := exists_quotedBlocks_between base before after front back
    refine ⟨front', back', fun b s hs hb => ?_⟩
    rw [Site.fill, quotedBlock, hown _ s hs (hinner b s hs hb)]
  | inItem ordered itemsBefore before inner after itemsAfter ih =>
    obtain ⟨front, back, hinner⟩ := ih
    obtain ⟨front', back', hown⟩ := exists_quotedBlocks_between base before after front back
    obtain ⟨rest, hrest⟩ := exists_quotedItems base itemsAfter
    refine ⟨endLine (quotedItems base [] itemsBefore) ++ front', dropLineEnd (back' ++ rest), fun b s hs hb => ?_⟩
    rw [Site.fill, quotedBlock, quotedItems_append, quotedItems, hown _ s hs (hinner b s hs hb), hrest _ (by simp),
      ← dropLineEnd_append hs]
    simp only [List.append_assoc, List.cons_append]

/-! ## Nodes of a list -/

theorem itemParts_append (depth : Nat) (spans : List Span) (others : List Node) (xs ys : List Markdown.Block) :
    itemParts base depth spans others (xs ++ ys) =
      itemParts base depth (itemParts base depth spans others xs).1 (itemParts base depth spans others xs).2 ys := by
  induction xs generalizing spans others with
  | nil => rw [itemParts, List.nil_append]
  | cons b rest ih =>
    rw [List.cons_append]
    -- what becomes of the first block does not depend on what follows it
    cases b with
    | paragraph children =>
      cases others with
      | nil => rw [itemParts, itemParts, ih]
      | cons n others => rw [itemParts, itemParts, ih] <;> simp
    | _ => rw [itemParts, itemParts, ih] <;> simp

/-- Behind another node no paragraph joins the item's own text. -/
theorem itemParts_of_others (depth : Nat) (spans : List Span) {others : List Node} (h : others ≠ [])
    (own : List Markdown.Block) :
    itemParts base depth spans others own = (spans, others ++ own.flatMap (ofBlock base (depth + 1))) := by
  induction own generalizing others with
  | nil => rw [itemParts, List.flatMap_nil, List.append_nil]
  | cons b rest ih =>
    rcases itemParts_cons base depth spans others b rest with ⟨-, -, hnone, -⟩ | heq
    · exact absurd hnone h
    · rw [heq, ih (List.append_ne_nil_of_left_ne_nil h _), List.flatMap_cons, List.append_assoc]

/-- What follows the text of an item does not depend on the text, as long as there is any. -/
theorem exists_itemParts (depth : Nat) (own : List Markdown.Block) :
    ∃ rest others, ∀ spans ≠ [], itemParts base depth spans [] own = (spans ++ rest, others) := by
  induction own with
  | nil => exact ⟨[], [], fun spans _ => by rw [itemParts, List.append_nil]⟩
  | cons b own ih =>
    obtain ⟨rest, others, hrest⟩ := ih
    by_cases hp : ∃ children, b = .paragraph children
    · obtain ⟨children, rfl⟩ := hp
      refine ⟨lineEnd :: (spansOf base children ++ rest), others, fun spans hspans => ?_⟩
      rw [itemParts, endLine_of_ne_nil hspans, hrest _ (by simp)]
      simp
    · have hstep (spans : List Span) :
          itemParts base depth spans [] (b :: own) = itemParts base depth spans (ofBlock base (depth + 1) b) own := by
        rcases itemParts_cons base depth spans [] b own with ⟨children, hb, -⟩ | heq
        · exact absurd ⟨children, hb⟩ hp
        · rw [heq, List.nil_append]
      cases hnodes : ofBlock base (depth + 1) b with
      | nil =>
        refine ⟨rest, others, fun spans hspans => ?_⟩
        rw [hstep, hnodes, hrest spans hspans]
      | cons n nodes =>
        refine ⟨[], n :: nodes ++ own.flatMap (ofBlock base (depth + 1)), fun spans _ => ?_⟩
        rw [hstep, hnodes, itemParts_of_others base depth spans (List.cons_ne_nil n nodes), List.append_nil]

theorem ofItems_append (ordered : Bool) (depth : Nat) (xs ys : List (List Markdown.Block)) :
    ofItems base ordered depth (xs ++ ys) = ofItems base ordered depth xs ++ ofItems base ordered depth ys := by
  induction xs with
  | nil => rw [ofItems, List.nil_append, List.nil_append]
  | cons own rest ih => rw [List.cons_append, ofItems, ofItems, ih, List.cons_append, List.append_assoc]

variable (depth : Nat) (ordered : Bool) (itemsBefore : List (List Markdown.Block)) (before after : List Markdown.Block)
  (itemsAfter : List (List Markdown.Block))

theorem ofBlock_list {own : List Markdown.Block} {spans : List Span} {others : List Node}
    (h : itemParts base depth [] [] own = (spans, others)) :
    ofBlock base depth (.list ordered (itemsBefore ++ own :: itemsAfter)) =
      ofItems base ordered depth itemsBefore ++ .item ordered (some spans) depth ::
        (others ++ ofItems base ordered depth itemsAfter) := by
  rw [ofBlock, ofItems_append, ofItems, h]

/-- The nodes of a block that is no paragraph stand behind its item. -/
theorem exists_ofBlock_inItem : ∃ front back, ∀ b, (∀ children, b ≠ .paragraph children) →
    ofBlock base (depth + 1) b ≠ [] →
    ofBlock base depth (.list ordered (itemsBefore ++ (before ++ b :: after) :: itemsAfter)) =
      front ++ ofBlock base (depth + 1) b ++ back := by
  rcases hparts : itemParts base depth [] [] before with ⟨spans, others⟩
  refine ⟨ofItems base ordered depth itemsBefore ++ .item ordered (some spans) depth :: others,
    after.flatMap (ofBlock base (depth + 1)) ++ ofItems base ordered depth itemsAfter, fun b hp hne => ?_⟩
  have hown : itemParts base depth [] [] (before ++ b :: after) =
      (spans, others ++ ofBlock base (depth + 1) b ++ after.flatMap (ofBlock base (depth + 1))) := by
    rw [itemParts_append, hparts]
    rcases itemParts_cons base depth spans others b after with ⟨children, hb, -⟩ | heq
    · exact absurd hb (hp children)
    · rw [heq, itemParts_of_others base depth spans (List.append_ne_nil_of_right_ne_nil others hne)]
  rw [ofBlock_list base depth ordered itemsBefore itemsAfter hown]
  simp only [List.append_assoc, List.cons_append]

/-- A paragraph either joins the text of its item, or stands behind the item as any other block does. -/
theorem exists_paragraph_inItem :
    (∃ front spansBefore spansAfter back, ∀ children, spansOf base children ≠ [] →
        ofBlock base depth (.list ordered (itemsBefore ++ (before ++ .paragraph children :: after) :: itemsAfter)) =
          front ++ .item ordered (some (spansBefore ++ spansOf base children ++ spansAfter)) depth :: back) ∨
      ∃ front back, ∀ children,
        ofBlock base depth (.list ordered (itemsBefore ++ (before ++ .paragraph children :: after) :: itemsAfter)) =
          front ++ ofParagraph (spansOf base children) ++ back := by
  rcases hparts : itemParts base depth [] [] before with ⟨spans, others⟩
  by_cases hothers : others = []
  · subst hothers
    obtain ⟨rest, others, hrest⟩ := exists_itemParts base depth after
    refine .inl ⟨ofItems base ordered depth itemsBefore, endLine spans, rest,
      others ++ ofItems base ordered depth itemsAfter, fun children hne => ?_⟩
    have hown : itemParts base depth [] [] (before ++ .paragraph children :: after) =
        (endLine spans ++ spansOf base children ++ rest, others) := by
      rw [itemParts_append, hparts, itemParts, hrest _ (List.append_ne_nil_of_right_ne_nil _ hne)]
    rw [ofBlock_list base depth ordered itemsBefore itemsAfter hown]
  · refine .inr ⟨ofItems base ordered depth itemsBefore ++ .item ordered (some spans) depth :: others,
      after.flatMap (ofBlock base (depth + 1)) ++ ofItems base ordered depth itemsAfter, fun children => ?_⟩
    have hown : itemParts base depth [] [] (before ++ .paragraph children :: after) =
        (spans, others ++ ofParagraph (spansOf base children) ++ after.flatMap (ofBlock base (depth + 1))) := by
      rw [itemParts_append, hparts, itemParts_of_others base depth spans hothers, List.flatMap_cons, ofBlock,
        List.append_assoc]
    rw [ofBlock_list base depth ordered itemsBefore itemsAfter hown]
    simp only [List.append_assoc, List.cons_append]

end Node

end WebClip.Page
