import WebClip.Proofs.Placement
import WebClip.Proofs.Sites
/-!
# The images of markup

Markup gives an image for each of its image elements that names one, behind its text. In a quote it is
text alone, and its images are nowhere.
-/

namespace WebClip.Page

open WebClip.Markdown

/-! ## Pictures of a document -/

/-- The images that markup names, in order. -/
def htmlPictures (base : Option String) (raw : String) : List Picture :=
  (Html.images raw.toList).filterMap fun attributes =>
    let src := Node.sourceOf attributes
    if src.isEmpty then none else some ⟨Node.resolve base src, (Html.valueOf? "alt" attributes).getD ""⟩

mutual

/-- The images that a block names, in order. In a quote markup names none. -/
def picturesIn (base : Option String) (quoted : Bool) : Markdown.Block → List Picture
  | .heading _ children | .paragraph children => (Node.spansOf base children).filterMap Span.picture?
  | .quote children => picturesOf base true children
  | .list _ items => picturesOfItems base quoted items
  | .html raw => if quoted then [] else htmlPictures base raw
  | .group children => if quoted then picturesOf base true children else []
  | .blank | .code .. | .rule | .unknown => []

/-- The images that blocks name. -/
def picturesOf (base : Option String) (quoted : Bool) : List Markdown.Block → List Picture
  | [] => []
  | b :: rest => picturesIn base quoted b ++ picturesOf base quoted rest

/-- The images that the items of a list name. -/
def picturesOfItems (base : Option String) (quoted : Bool) : List (List Markdown.Block) → List Picture
  | [] => []
  | own :: rest => picturesOf base quoted own ++ picturesOfItems base quoted rest

end

/-! ## Pictures of spans -/

theorem pictures_of_endsLine (s : Span) (h : s.endsLine = true) : s.picture?.toList = [] := by
  rw [Span.picture?, image_of_endsLine h]
  rfl

theorem pictures_endLine (spans : List Span) :
    (Node.endLine spans).filterMap Span.picture? = spans.filterMap Span.picture? := by
  rw [List.filterMap_eq_flatMap_toList, List.filterMap_eq_flatMap_toList]
  exact flatMap_endLine pictures_of_endsLine spans

theorem pictures_dropLineEnd (spans : List Span) :
    (Node.dropLineEnd spans).filterMap Span.picture? = spans.filterMap Span.picture? := by
  rw [List.filterMap_eq_flatMap_toList, List.filterMap_eq_flatMap_toList]
  exact flatMap_dropLineEnd pictures_of_endsLine spans

/-- The node of an image that stands alone. -/
def Picture.toNode (p : Picture) : Node := .image p.url p.alt

theorem pictures_map_toNode (pictures : List Picture) : (pictures.map Picture.toNode).flatMap Node.pictures = pictures := by
  rw [List.flatMap_map]
  exact List.flatMap_singleton' pictures

/-- A paragraph names the images of its spans, also when only these become nodes. -/
theorem pictures_ofParagraph (spans : List Span) :
    (Node.ofParagraph spans).flatMap Node.pictures = spans.filterMap Span.picture? := by
  unfold Node.ofParagraph
  split
  next =>
    have hnodes : (spans.filterMap fun s => s.image.map fun url => Node.image url s.text) =
        (spans.filterMap Span.picture?).map Picture.toNode := by
      rw [List.map_filterMap]
      refine List.filterMap_congr fun s _ => ?_
      rw [Span.picture?, Option.map_map]
      rfl
    rw [hnodes, pictures_map_toNode]
  next => exact List.flatMap_singleton _ _

theorem pictures_ofHtml (base : Option String) (raw : String) :
    (Node.ofHtml base raw).flatMap Node.pictures = htmlPictures base raw := by
  have hnodes : ((Html.images raw.toList).filterMap fun attributes =>
      let src := Node.sourceOf attributes
      if src.isEmpty then none
      else some (Node.image (Node.resolve base src) ((Html.valueOf? "alt" attributes).getD ""))) =
      (htmlPictures base raw).map Picture.toNode := by
    rw [htmlPictures, List.map_filterMap]
    refine List.filterMap_congr fun attributes _ => ?_
    dsimp only
    split <;> rfl
  unfold Node.ofHtml
  dsimp only at hnodes ⊢
  rw [hnodes]
  split
  · exact pictures_map_toNode _
  · rw [List.flatMap_cons, pictures_map_toNode]
    rfl

mutual

theorem pictures_quotedBlock (base : Option String) :
    ∀ b : Markdown.Block, (Node.quotedBlock base b).filterMap Span.picture? = picturesIn base true b
  | .heading _ _ | .paragraph _ => by rw [Node.quotedBlock, picturesIn]
  | .quote children | .group children => by
    rw [Node.quotedBlock, pictures_dropLineEnd, pictures_quotedBlocks base [] children, picturesIn]
    rfl
  | .list _ items => by
    rw [Node.quotedBlock, pictures_dropLineEnd, pictures_quotedItems base [] items, picturesIn]
    rfl
  | .code .. | .html _ | .blank | .rule | .unknown => rfl

theorem pictures_quotedBlocks (base : Option String) (before : List Span) :
    ∀ blocks : List Markdown.Block, (Node.quotedBlocks base before blocks).filterMap Span.picture? =
      before.filterMap Span.picture? ++ picturesOf base true blocks
  | [] => by rw [Node.quotedBlocks, picturesOf, List.append_nil]
  | b :: rest => by
    rcases quotedBlocks_cons base before b rest with ⟨hb, he⟩ | he
    · rw [he, pictures_quotedBlocks base before rest, picturesOf, hb, picturesIn, List.nil_append]
    · rw [he, pictures_quotedBlocks base _ rest, List.filterMap_append, pictures_endLine,
        pictures_quotedBlock base b, picturesOf, List.append_assoc]

theorem pictures_quotedItems (base : Option String) (before : List Span) :
    ∀ items : List (List Markdown.Block), (Node.quotedItems base before items).filterMap Span.picture? =
      before.filterMap Span.picture? ++ picturesOfItems base true items
  | [] => by rw [Node.quotedItems, picturesOfItems, List.append_nil]
  | own :: rest => by
    rw [Node.quotedItems, pictures_quotedItems base _ rest, List.filterMap_append, pictures_endLine,
      pictures_dropLineEnd, pictures_quotedBlocks base [] own, picturesOfItems]
    simp only [List.filterMap_nil, List.nil_append, List.append_assoc]

end

/-! ## Pictures of nodes -/

mutual

/-- The nodes of a block show the images that it names. -/
theorem pictures_ofBlock (base : Option String) (depth : Nat) :
    ∀ b : Markdown.Block, (Node.ofBlock base depth b).flatMap Node.pictures = picturesIn base false b
  | .heading level children => by
    rw [Node.ofBlock, picturesIn, List.flatMap_singleton]
    rfl
  | .paragraph children => by rw [Node.ofBlock, picturesIn, pictures_ofParagraph]
  | .quote children => by
    rw [Node.ofBlock, picturesIn, List.flatMap_singleton]
    exact (pictures_dropLineEnd _).trans (pictures_quotedBlocks base [] children)
  | .list ordered items => by rw [Node.ofBlock, picturesIn, pictures_ofItems base ordered depth items]
  | .html raw => by rw [Node.ofBlock, picturesIn, pictures_ofHtml]; rfl
  | .code .. | .group _ | .blank | .rule | .unknown => rfl

theorem pictures_ofItems (base : Option String) (ordered : Bool) (depth : Nat) :
    ∀ items : List (List Markdown.Block),
      (Node.ofItems base ordered depth items).flatMap Node.pictures = picturesOfItems base false items
  | [] => rfl
  | own :: rest => by
    have hown := pictures_itemParts base depth [] [] own
    rw [List.filterMap_nil, List.flatMap_nil, List.nil_append, List.nil_append] at hown
    rw [Node.ofItems, picturesOfItems, ← pictures_ofItems base ordered depth rest, ← hown, List.flatMap_cons,
      List.flatMap_append, ← List.append_assoc]
    rfl

theorem pictures_itemParts (base : Option String) (depth : Nat) (spans : List Span) (others : List Node) :
    ∀ own : List Markdown.Block,
      (Node.itemParts base depth spans others own).1.filterMap Span.picture? ++
          (Node.itemParts base depth spans others own).2.flatMap Node.pictures =
        spans.filterMap Span.picture? ++ others.flatMap Node.pictures ++ picturesOf base false own
  | [] => by rw [Node.itemParts, picturesOf, List.append_nil]
  | b :: rest => by
    -- a paragraph joins the item's text only while no other node is there to be overtaken
    rcases itemParts_cons base depth spans others b rest with ⟨children, rfl, rfl, he⟩ | he
    · rw [he, pictures_itemParts base depth _ [] rest, picturesOf, picturesIn, List.filterMap_append, pictures_endLine]
      simp only [List.flatMap_nil, List.append_nil, List.append_assoc]
    · rw [he, pictures_itemParts base depth spans _ rest, picturesOf, List.flatMap_append,
        pictures_ofBlock base (depth + 1) b]
      simp only [List.append_assoc]

end

theorem pictures_ofBlocks (base : Option String) (document : List Markdown.Block) :
    (Node.ofBlocks base document).flatMap Node.pictures = picturesOf base false document := by
  induction document with
  | nil => rfl
  | cons b rest ih =>
    rw [picturesOf, ← ih, ← pictures_ofBlock base 0 b, Node.ofBlocks, List.flatMap_cons, List.flatMap_append]
    rfl

/-! ## Pictures of a place -/

theorem picturesOf_append (base : Option String) (quoted : Bool) (xs ys : List Markdown.Block) :
    picturesOf base quoted (xs ++ ys) = picturesOf base quoted xs ++ picturesOf base quoted ys := by
  induction xs with
  | nil => rfl
  | cons b rest ih => rw [List.cons_append, picturesOf, picturesOf, ih, List.append_assoc]

theorem picturesOfItems_append (base : Option String) (quoted : Bool) (xs ys : List (List Markdown.Block)) :
    picturesOfItems base quoted (xs ++ ys) = picturesOfItems base quoted xs ++ picturesOfItems base quoted ys := by
  induction xs with
  | nil => rfl
  | cons own rest ih => rw [List.cons_append, picturesOfItems, picturesOfItems, ih, List.append_assoc]

/-- The images that a block names stand between those of the blocks around it, in one place whatever it is. -/
theorem picturesIn_fill (base : Option String) (quoted : Bool) (site : Site) :
    ∃ front back, ∀ b, picturesIn base quoted (site.fill b) = front ++ picturesIn base (quoted || site.isQuoted) b ++ back := by
  induction site generalizing quoted with
  | here => exact ⟨[], [], fun b => by simp [Site.fill, Site.isQuoted]⟩
  | inItem ordered itemsBefore before inner after itemsAfter ih =>
    obtain ⟨front, back, hinner⟩ := ih quoted
    refine ⟨picturesOfItems base quoted itemsBefore ++ picturesOf base quoted before ++ front,
      back ++ picturesOf base quoted after ++ picturesOfItems base quoted itemsAfter, fun b => ?_⟩
    rw [Site.fill, picturesIn, picturesOfItems_append, picturesOfItems, picturesOf_append, picturesOf, hinner,
      Site.isQuoted]
    simp only [List.append_assoc]
  | inQuote before inner after ih =>
    obtain ⟨front, back, hinner⟩ := ih true
    refine ⟨picturesOf base true before ++ front, back ++ picturesOf base true after, fun b => ?_⟩
    rw [Site.fill, picturesIn, picturesOf_append, picturesOf, hinner, Site.isQuoted, Bool.true_or, Bool.or_true]
    simp only [List.append_assoc]

/-- Where markup stands at the top of a document or in items of lists alone, the document has an image for each image
element of it that names a source, with the absolute URL, in their order and in one place whatever the markup is; they
are all among the URLs that are collected, an empty one apart. In a quote there is none of them. -/
theorem htmlPictures_between (base : Option String) (before after : List Markdown.Block) (site : Site) :
    ∃ front back, ∀ raw, Node.readError? (before ++ site.fill (.html raw) :: after) = none →
      ∃ nodes, nodesOf base (before ++ site.fill (.html raw) :: after) = .ok nodes ∧
        nodes.flatMap Node.pictures = front ++ (if site.isQuoted then [] else htmlPictures base raw) ++ back ∧
        (site.isQuoted = false → ∀ p ∈ htmlPictures base raw, p.url ≠ "" → p.url ∈ Node.collectUrls nodes) := by
  obtain ⟨front, back, hsite⟩ := picturesIn_fill base false site
  refine ⟨picturesOf base false before ++ front, back ++ picturesOf base false after, fun raw hread => ?_⟩
  have hpictures : (Node.ofBlocks base (before ++ site.fill (.html raw) :: after)).flatMap Node.pictures =
      picturesOf base false before ++ front ++ (if site.isQuoted then [] else htmlPictures base raw) ++
        (back ++ picturesOf base false after) := by
    rw [pictures_ofBlocks, picturesOf_append, picturesOf, hsite, picturesIn, Bool.false_or]
    simp only [List.append_assoc]
  refine ⟨_, nodesOf_of_readable hread base, hpictures, fun hsite p hp hne => ?_⟩
  rw [hsite] at hpictures
  refine mem_collectUrls.2 ⟨⟨p, ?_, rfl⟩, hne⟩
  simp only [Bool.false_eq_true, if_false] at hpictures
  rw [hpictures]
  simp [hp]

/-- The image of markup in a quote is lost. -/
theorem quotedImage_lost :
    htmlPictures none "<div><img src=\"https://h/x.png\"></div>" = [⟨"https://h/x.png", ""⟩] ∧
      ∃ nodes, nodesOf none [.quote [.html "<div><img src=\"https://h/x.png\"></div>"]] = .ok nodes ∧
        nodes.flatMap Node.pictures = [] ∧ Node.collectUrls nodes = [] := by
  refine ⟨by decide +kernel, _, rfl, by decide +kernel, by decide +kernel⟩

end WebClip.Page
