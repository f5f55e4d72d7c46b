import WebClip.Proofs.Excerpts
/-!
# The outline of a document

Lists lose their nesting when a document is flattened, but not their outline: each item that is in no quote has one
node, in the order in which the items begin, with the kind of its list and the depth of its nesting. What else comes
of an item stands behind its node and before that of the next item.
-/

namespace WebClip.Page

/-- An item of a list: whether the list is numbered, how many items are around it, and what it holds. -/
structure ListEntry where
  ordered : Bool
  depth : Nat
  own : List Markdown.Block

mutual

/-- The items in a block that no quote in it is around, each before those in it. Those in tokens of unknown kinds
count if `all` do. -/
def entriesIn (all : Bool) (depth : Nat) : Markdown.Block → List ListEntry
  | .list ordered items => entriesOf all ordered depth items
  | .group children => if all then entriesAmong all depth children else []
  | .blank | .heading .. | .paragraph _ | .quote _ | .code .. | .rule | .html _ | .unknown => []

/-- The items in blocks. -/
def entriesAmong (all : Bool) (depth : Nat) : List Markdown.Block → List ListEntry
  | [] => []
  | b :: rest => entriesIn all depth b ++ entriesAmong all depth rest

/-- The items of a list and those in them. -/
def entriesOf (all : Bool) (ordered : Bool) (depth : Nat) : List (List Markdown.Block) → List ListEntry
  | [] => []
  | own :: rest => ⟨ordered, depth, own⟩ :: (entriesAmong all (depth + 1) own ++ entriesOf all ordered depth rest)

end

namespace ListEntry

variable (base : Option String) (e : ListEntry)

/-- The node of an item, with its own text. -/
def toNode : Node := .item e.ordered (some (Node.itemParts base e.depth [] [] e.own).1) e.depth

/-- What else becomes of what an item holds. -/
def inside : List Node := (Node.itemParts base e.depth [] [] e.own).2

/-- All that becomes of an item. -/
def nodes : List Node := e.toNode base :: e.inside base

end ListEntry

/-! ## Items and their nodes -/

section Items
variable (base : Option String)

theorem items_ofParagraph (spans : List Span) : (Node.ofParagraph spans).filter Node.isItem = [] := by
  unfold Node.ofParagraph
  split
  · rw [List.filter_eq_nil_iff]
    intro n hn
    obtain ⟨s, -, hs⟩ := List.mem_filterMap.1 hn
    obtain ⟨url, -, rfl⟩ := Option.map_eq_some_iff.1 hs
    exact Bool.false_ne_true
  · rfl

/-- Besides its text, markup has images alone. -/
theorem items_ofHtml (raw : String) : (Node.ofHtml base raw).filter Node.isItem = [] := by
  rw [List.filter_eq_nil_iff]
  intro n hn
  unfold Node.ofHtml at hn
  dsimp only at hn
  split at hn
  case' isFalse =>
    rcases List.mem_cons.1 hn with rfl | hn
    · exact Bool.false_ne_true
  all_goals
    obtain ⟨attributes, -, hattributes⟩ := List.mem_filterMap.1 hn
    split at hattributes
    · cases hattributes
    · obtain rfl := Option.some.inj hattributes
      exact Bool.false_ne_true

mutual

/-- The items among the nodes of a block are those of its outline. -/
theorem items_ofBlock (depth : Nat) : ∀ b : Markdown.Block,
    (Node.ofBlock base depth b).filter Node.isItem = (entriesIn false depth b).map (ListEntry.toNode base)
  | .list ordered items => by rw [Node.ofBlock, entriesIn, items_ofItems ordered depth items]
  | .paragraph children => by
    rw [Node.ofBlock, entriesIn, items_ofParagraph]
    rfl
  | .html raw => by
    rw [Node.ofBlock, entriesIn, items_ofHtml]
    rfl
  | .heading .. | .quote _ | .code .. | .rule | .blank | .group _ | .unknown => by
    rw [Node.ofBlock, entriesIn]
    rfl

theorem items_ofItems (ordered : Bool) (depth : Nat) : ∀ items : List (List Markdown.Block),
    (Node.ofItems base ordered depth items).filter Node.isItem =
      (entriesOf false ordered depth items).map (ListEntry.toNode base)
  | [] => by
    rw [Node.ofItems, entriesOf]
    rfl
  | own :: rest => by
    have hown := items_itemParts depth [] [] own
    rw [List.filter_nil, List.nil_append] at hown
    rw [Node.ofItems, entriesOf, List.map_cons, List.map_append, ← items_ofItems ordered depth rest, ← hown,
      ← List.filter_append]
    rfl

/-- The items among the other nodes of an item are those in the blocks that it holds. -/
theorem items_itemParts (depth : Nat) (spans : List Span) (others : List Node) : ∀ blocks : List Markdown.Block,
    (Node.itemParts base depth spans others blocks).2.filter Node.isItem =
      others.filter Node.isItem ++ (entriesAmong false (depth + 1) blocks).map (ListEntry.toNode base)
  | [] => by rw [Node.itemParts, entriesAmong, List.map_nil, List.append_nil]
  | b :: rest => by
    rcases itemParts_cons base depth spans others b rest with ⟨children, rfl, rfl, heq⟩ | heq
    · rw [heq, items_itemParts depth _ [] rest, entriesAmong, entriesIn, List.nil_append]
    · rw [heq, items_itemParts depth spans _ rest, entriesAmong, List.filter_append, List.map_append,
        items_ofBlock (depth + 1) b, List.append_assoc]

end

theorem items_ofBlocks (document : List Markdown.Block) :
    (Node.ofBlocks base document).filter Node.isItem = (entriesAmong false 0 document).map (ListEntry.toNode base) := by
  induction document with
  | nil => rfl
  | cons b rest ih =>
    rw [entriesAmong, List.map_append, ← ih, ← items_ofBlock base 0 b, ← List.filter_append]
    rfl

/-- The nodes of a list are those of its items, one after another. -/
theorem ofItems_eq_flatMap (ordered : Bool) (depth : Nat) (items : List (List Markdown.Block)) :
    Node.ofItems base ordered depth items = items.flatMap fun own => ListEntry.nodes base ⟨ordered, depth, own⟩ := by
  induction items with
  | nil => rw [Node.ofItems, List.flatMap_nil]
  | cons own rest ih =>
    rw [Node.ofItems, ih]
    rfl

end Items

/-! ## Items and their places -/

/-- A document with an item in a list in a place. -/
structure ItemPlace where
  before : List Markdown.Block
  place : Place
  itemsBefore : List (List Markdown.Block)
  itemsAfter : List (List Markdown.Block)
  after : List Markdown.Block

namespace ItemPlace

/-- The blocks with the item. -/
def fill (p : ItemPlace) (ordered : Bool) (own : List Markdown.Block) : List Markdown.Block :=
  p.before ++ p.place.fill (.list ordered (p.itemsBefore ++ own :: p.itemsAfter)) :: p.after

end ItemPlace

section Places
variable {e : ListEntry}

theorem mem_entriesAmong {all : Bool} {depth : Nat} {blocks : List Markdown.Block} :
    e ∈ entriesAmong all depth blocks ↔ ∃ b ∈ blocks, e ∈ entriesIn all depth b := by
  induction blocks with
  | nil => simp [entriesAmong]
  | cons b rest ih => simp [entriesAmong, ih]

theorem mem_entriesOf {all ordered : Bool} {depth : Nat} {items : List (List Markdown.Block)} :
    e ∈ entriesOf all ordered depth items ↔
      ∃ own ∈ items, e = ⟨ordered, depth, own⟩ ∨ e ∈ entriesAmong all (depth + 1) own := by
  induction items with
  | nil => simp [entriesOf]
  | cons own rest ih => simp [entriesOf, ih, or_assoc]

/-- The item of a place is one of the outline, as deep as the place is. -/
theorem mem_entriesIn_fill (all : Bool) (ordered : Bool) (itemsBefore itemsAfter : List (List Markdown.Block))
    (own : List Markdown.Block) (place : Place) (depth : Nat) :
    ⟨ordered, depth + place.depth, own⟩ ∈
      entriesIn all depth (place.fill (.list ordered (itemsBefore ++ own :: itemsAfter))) := by
  induction place generalizing depth with
  | here =>
    rw [Place.fill, entriesIn, mem_entriesOf]
    exact ⟨own, by simp, .inl rfl⟩
  | inItem ordered' itemsBefore' before inner after itemsAfter' ih =>
    rw [Place.fill, entriesIn, mem_entriesOf]
    refine ⟨_, List.mem_append_right _ List.mem_cons_self, .inr (mem_entriesAmong.2
      ⟨inner.fill (.list ordered (itemsBefore ++ own :: itemsAfter)), List.mem_append_right _ List.mem_cons_self, ?_⟩)⟩
    rw [Place.depth, Nat.add_comm inner.depth, ← Nat.add_assoc]
    exact ih (depth + 1)

mutual

/-- An item of the outline of a block has a place in it. -/
theorem exists_place (depth : Nat) : ∀ b : Markdown.Block, e ∈ entriesIn false depth b →
    ∃ (place : Place) (itemsBefore itemsAfter : List (List Markdown.Block)),
      b = place.fill (.list e.ordered (itemsBefore ++ e.own :: itemsAfter)) ∧ e.depth = depth + place.depth
  | .list ordered items, h => by
    rw [entriesIn] at h
    obtain ⟨itemsBefore, own, itemsAfter, rfl, rfl | ⟨p, rfl, hdepth⟩⟩ := exists_placeOf ordered depth items h
    · exact ⟨.here, itemsBefore, itemsAfter, rfl, rfl⟩
    · refine ⟨.inItem ordered itemsBefore p.before p.place p.after itemsAfter, p.itemsBefore, p.itemsAfter, rfl, ?_⟩
      rw [hdepth, Place.depth]
      omega
  | .group children, h => by
    rw [entriesIn] at h
    cases h
  | .paragraph _, h | .html _, h | .heading .., h | .quote _, h | .code .., h | .rule, h | .blank, h | .unknown, h => by
    rw [entriesIn] at h
    cases h

theorem exists_placeAmong (depth : Nat) : ∀ blocks : List Markdown.Block, e ∈ entriesAmong false depth blocks →
    ∃ p : ItemPlace, blocks = p.fill e.ordered e.own ∧ e.depth = depth + p.place.depth
  | [], h => by
    rw [entriesAmong] at h
    cases h
  | b :: rest, h => by
    rw [entriesAmong, List.mem_append] at h
    rcases h with h | h
    · obtain ⟨place, itemsBefore, itemsAfter, rfl, hdepth⟩ := exists_place depth b h
      exact ⟨⟨[], place, itemsBefore, itemsAfter, rest⟩, rfl, hdepth⟩
    · obtain ⟨p, rfl, hdepth⟩ := exists_placeAmong depth rest h
      exact ⟨{ p with before := b :: p.before }, rfl, hdepth⟩

theorem exists_placeOf (ordered : Bool) (depth : Nat) : ∀ items : List (List Markdown.Block),
    e ∈ entriesOf false ordered depth items →
      ∃ itemsBefore own itemsAfter, items = itemsBefore ++ own :: itemsAfter ∧
        (e = ⟨ordered, depth, own⟩ ∨
          ∃ p : ItemPlace, own = p.fill e.ordered e.own ∧ e.depth = depth + 1 + p.place.depth)
  | [], h => by
    rw [entriesOf] at h
    cases h
  | own :: rest, h => by
    rw [entriesOf, List.mem_cons, List.mem_append] at h
    rcases h with h | h | h
    · exact ⟨[], own, rest, rfl, .inl h⟩
    · exact ⟨[], own, rest, rfl, .inr (exists_placeAmong (depth + 1) own h)⟩
    · obtain ⟨itemsBefore, own', itemsAfter, rfl, hown⟩ := exists_placeOf ordered depth rest h
      exact ⟨own :: itemsBefore, own', itemsAfter, rfl, hown⟩

end

/-- The outline of a document has exactly the items that have a place in it. -/
theorem mem_entriesAmong_iff {document : List Markdown.Block} :
    e ∈ entriesAmong false 0 document ↔
      ∃ p : ItemPlace, document = p.fill e.ordered e.own ∧ e.depth = p.place.depth := by
  constructor
  · intro h
    obtain ⟨p, hfill, hdepth⟩ := exists_placeAmong 0 document h
    exact ⟨p, hfill, by omega⟩
  · rintro ⟨p, rfl, hdepth⟩
    refine mem_entriesAmong.2 ⟨_, List.mem_append_right _ List.mem_cons_self, ?_⟩
    have hitem := mem_entriesIn_fill false e.ordered p.itemsBefore p.itemsAfter e.own p.place 0
    rwa [Nat.zero_add, ← hdepth] at hitem

end Places

/-! ## Outlines of documents -/

section Documents
variable (base : Option String)

/-- Whatever the items of a list in a place are, the nodes of each stand together, one item after another, between
the same others. -/
theorem exists_ofBlocks_fill (before : List Markdown.Block) (place : Place) (after : List Markdown.Block) :
    ∃ front back, ∀ ordered (items : List (List Markdown.Block)), items ≠ [] →
      Node.ofBlocks base (before ++ place.fill (.list ordered items) :: after) =
        front ++ (items.flatMap fun own => ListEntry.nodes base ⟨ordered, place.depth, own⟩) ++ back := by
  obtain ⟨front, back, hfill⟩ := Node.exists_ofBlock_fill base 0 place
  refine ⟨Node.ofBlocks base before ++ front, back ++ Node.ofBlocks base after, fun ordered items hne => ?_⟩
  obtain ⟨own, rest, rfl⟩ := List.exists_cons_of_ne_nil hne
  have hlist : Node.ofBlock base (0 + place.depth) (.list ordered (own :: rest)) =
      (own :: rest).flatMap fun own => ListEntry.nodes base ⟨ordered, place.depth, own⟩ := by
    rw [Node.ofBlock, ofItems_eq_flatMap, Nat.zero_add]
  have hblock := hfill (.list ordered (own :: rest)) nofun (by rw [hlist]; exact List.cons_ne_nil _ _)
  rw [hlist] at hblock
  unfold Node.ofBlocks
  rw [List.flatMap_append, List.flatMap_cons, hblock]
  simp only [List.append_assoc]

/-- The items of a document that are in no quote keep their order, their kinds and their depths, one node each; and
whatever the items of a list are, what comes of one of them stands together, between what comes of the items before
and behind it. -/
theorem outline_kept :
    (∀ document : List Markdown.Block, Node.readError? document = none →
      ∃ nodes, nodesOf base document = .ok nodes ∧
        nodes.filter Node.isItem = (entriesAmong false 0 document).map (ListEntry.toNode base) ∧
        ∀ e, e ∈ entriesAmong false 0 document ↔
          ∃ p : ItemPlace, document = p.fill e.ordered e.own ∧ e.depth = p.place.depth) ∧
    ∀ (before : List Markdown.Block) (place : Place) (after : List Markdown.Block),
      ∃ front back, ∀ ordered (items : List (List Markdown.Block)), items ≠ [] →
        Node.readError? (before ++ place.fill (.list ordered items) :: after) = none →
        nodesOf base (before ++ place.fill (.list ordered items) :: after) =
          .ok (front ++ (items.flatMap fun own => ListEntry.nodes base ⟨ordered, place.depth, own⟩) ++ back) := by
  refine ⟨fun document hread => ⟨_, nodesOf_of_readable hread base, items_ofBlocks base document,
    fun e => mem_entriesAmong_iff⟩, fun before place after => ?_⟩
  obtain ⟨front, back, hfill⟩ := exists_ofBlocks_fill base before place after
  refine ⟨front, back, fun ordered items hne hread => ?_⟩
  rw [nodesOf_of_readable hread base, hfill ordered items hne]

/-- A numbered item with a list and a quote in it. -/
def nestedList : List Markdown.Block :=
  [.list true [[.paragraph [.text "a"], .list false [[.paragraph [.text "b"], .rule]], .paragraph [.text "c"],
    .quote [.list false [[.paragraph [.text "d"]]]]]]]

/-- The two items of `nestedList` that are in no quote have a node each, and the rule in one of them stands behind its
node. -/
theorem nestedList_outline :
    ∃ nodes, nodesOf none nestedList = .ok nodes ∧
      nodes.filter Node.isItem = [.item true (some [.plain "a"]) 0, .item false (some [.plain "b"]) 1] ∧
      ∃ front back, nodes = front ++ [.item false (some [.plain "b"]) 1, .rule] ++ back := by
  obtain ⟨hdocument, hplace⟩ := outline_kept none
  obtain ⟨nodes, hnodes, hitems, -⟩ := hdocument nestedList (by decide)
  obtain ⟨front, back, hlist⟩ := hplace [] (.inItem true [] [.paragraph [.text "a"]] .here
    [.paragraph [.text "c"], .quote [.list false [[.paragraph [.text "d"]]]]] []) []
  have hinside := hlist false [[.paragraph [.text "b"], .rule]] (List.cons_ne_nil _ _) (by decide)
  exact ⟨nodes, hnodes, hitems.trans (by rfl), front, back, Except.ok.inj (hnodes.symm.trans hinside)⟩

/-- The item of a list in a token of unknown kind has no node. -/
theorem groupedItem_lost :
    entriesAmong true 0 [.group [.list false [[.paragraph [.text "a"]]]]] = [⟨false, 0, [.paragraph [.text "a"]]⟩] ∧
      nodesOf none [.group [.list false [[.paragraph [.text "a"]]]]] = .ok [] :=
  ⟨rfl, rfl⟩

end Documents

end WebClip.Page
