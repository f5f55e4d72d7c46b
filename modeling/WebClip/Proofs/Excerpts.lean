import WebClip.Proofs.Pages
import WebClip.Proofs.Sites
import WebClip.Proofs.Trimming
/-!
# The text of markup

Markup that stands in a document, or in an item of a list there, becomes a paragraph of its
visible text and behind it its images. The paragraph is made of text whose references have been
decoded already and is decoded once more like any other. So it says what the markup shows only
where no reference is to be found in that.
-/

namespace WebClip.Page

open WebClip.Text

/-! ## Places for markup -/

/-- A place for a block: where it stands by itself, or in an item of a list in such a place. -/
inductive Place where
  | here
  | inItem (ordered : Bool) (itemsBefore : List (List Markdown.Block)) (before : List Markdown.Block)
    (inner : Place) (after : List Markdown.Block) (itemsAfter : List (List Markdown.Block))

/-- What stands there with a block in the place. -/
def Place.fill (b : Markdown.Block) : Place → Markdown.Block
  | here => b
  | inItem ordered itemsBefore before inner after itemsAfter =>
    .list ordered (itemsBefore ++ (before ++ inner.fill b :: after) :: itemsAfter)

/-- How many items of lists stand around the place. -/
def Place.depth : Place → Nat
  | here => 0
  | inItem _ _ _ inner _ _ => inner.depth + 1

/-- The text that markup shows, without the white space around it. -/
def excerpt (raw : String) : String := String.ofList (trim (Html.visibleText raw.toList))

/-- The runs of a paragraph of one plain text: its references are decoded, unless one of them has
too many digits. -/
def Run.ofPlain (text : String) : List Run :=
  if (Html.oversized? text.toList).isSome then ofText text else ofSpans [.plain text]

/-- What the runs of a paragraph of one plain text tell. -/
def retold (text : String) : String :=
  if (Html.oversized? text.toList).isSome then text
  else if blank (Run.decoded text) then "" else Run.decoded text

namespace Node

variable (base : Option String)

/-! ## Nodes of a place -/

theorem fill_ne_paragraph {b : Markdown.Block} (hb : ∀ children, b ≠ .paragraph children) (place : Place)
    (children : List Markdown.Inline) : place.fill b ≠ .paragraph children := by
  cases place with
  | here => exact hb children
  | inItem => exact nofun

/-- Whatever stands in a place, paragraphs apart, its nodes stand between the same others. -/
theorem exists_ofBlock_fill (depth : Nat) (place : Place) :
    ∃ front back, ∀ b, (∀ children, b ≠ .paragraph children) → ofBlock base (depth + place.depth) b ≠ [] →
      ofBlock base depth (place.fill b) = front ++ ofBlock base (depth + place.depth) b ++ back := by
  induction place generalizing depth with
  | here => exact ⟨[], [], fun b _ _ => by rw [Place.fill, Place.depth, Nat.add_zero, List.nil_append, List.append_nil]⟩
  | inItem ordered itemsBefore before inner after itemsAfter ih =>
    obtain ⟨front, back, hinner⟩ := ih (depth + 1)
    obtain ⟨front', back', hown⟩ := exists_ofBlock_inItem base depth ordered itemsBefore before after itemsAfter
    refine ⟨front' ++ front, back ++ back', fun b hb hne => ?_⟩
    rw [Place.depth, Nat.add_comm inner.depth, ← Nat.add_assoc] at hne ⊢
    have hfill := hinner b hb hne
    have hsome : ofBlock base (depth + 1) (inner.fill b) ≠ [] := by simp [hfill, hne]
    rw [Place.fill, hown _ (fill_ne_paragraph hb inner) hsome, hfill]
    simp only [List.append_assoc]

/-- Markup that shows text becomes a paragraph of that text, and its images. -/
theorem ofHtml_of_excerpt {raw : String} (h : excerpt raw ≠ "") :
    ∃ images : List Node, ofHtml base raw = .paragraph (some [.plain (excerpt raw)]) :: images ∧
      ∀ n ∈ images, ∃ url alt, n = .image url alt := by
  unfold ofHtml
  rw [if_neg (by rwa [String.isEmpty_iff])]
  refine ⟨_, rfl, fun n hn => ?_⟩
  obtain ⟨attributes, -, himage⟩ := List.mem_filterMap.1 hn
  dsimp only at himage
  split at himage
  · cases himage
  · exact ⟨_, _, (Option.some.inj himage).symm⟩

/-- Whatever markup with a text stands in a place, its nodes stand between the same others. -/
theorem ofBlock_fill (depth : Nat) (place : Place) :
    ∃ front back, ∀ raw, excerpt raw ≠ "" →
      ofBlock base depth (place.fill (.html raw)) = front ++ ofHtml base raw ++ back := by
  obtain ⟨front, back, hfill⟩ := exists_ofBlock_fill base depth place
  refine ⟨front, back, fun raw hraw => hfill (.html raw) nofun ?_⟩
  obtain ⟨images, hhtml, -⟩ := ofHtml_of_excerpt base hraw
  rw [ofBlock, hhtml]
  exact List.cons_ne_nil _ _

end Node

/-! ## Blocks of a place -/

variable {assets : Assets}

theorem blocks_image (url alt : String) : ∀ b ∈ ((Node.image url alt).compile assets 0).blocks, b.isImage = true := by
  intro b hb
  rw [Node.compile_of_sound rfl, Node.compileSound, (Picture.compileImage_eq assets ⟨url, alt⟩).1] at hb
  exact Picture.isImage_of_block? (Option.mem_toList.1 hb)

/-- A paragraph of one plain text is one block. -/
theorem blocks_plain {text : String} (h : blank text = false) :
    ((Node.paragraph (some [.plain text])).compile assets 0).blocks = [.paragraph (Run.ofPlain text)] := by
  have herror : (Node.paragraph (some [.plain text])).error? = (Html.oversized? text.toList).map Value.tooManyDigits := by
    rw [Node.error?, Node.spansError?]
    cases hdigits : Html.oversized? text.toList <;> simp [Run.oversized?, Span.plain, Span.isImage, hdigits]
  unfold Run.ofPlain
  cases hdigits : Html.oversized? text.toList with
  | none =>
    rw [hdigits] at herror
    rw [Node.compile_of_sound herror, Node.compileSound, (Node.withImages_eq ..).1]
    simp [Node.compileImages_eq, Span.picture?, Span.plain]
  | some digits =>
    have htext : (Node.paragraph (some [.plain text])).text? = some text := by
      simp [Node.text?, Node.spans?, Span.plainText, Span.plain, Span.isImage]
    rw [hdigits] at herror
    rw [Node.blocks_compile_of_error herror, Node.fallback, htext]
    simp only [h, Bool.false_eq_true, if_false]
    rfl

theorem text_ofPlain (text : String) : Run.text (Run.ofPlain text) = retold text := by
  have hread : (Run.styledSpans [.plain text]).map (·.char) = (Run.decoded text).toList := by
    unfold Run.styledSpans
    rw [List.filterMap_cons, List.filterMap_nil]
    by_cases ht : Run.decoded text = ""
    · simp [Run.ofSpan?, Span.plain, Span.isImage, ht, Run.styledAll]
    · simp [Run.ofSpan?, Span.plain, Span.isImage, ht, Run.styledAll, Run.styled, Function.comp_def]
  have hblank : (Run.styledSpans [.plain text]).all (fun x => isBlank x.char) = blank (Run.decoded text) := by
    rw [blank, ← hread, List.all_map]
    rfl
  unfold Run.ofPlain retold
  split
  next => exact Run.text_ofText text
  next =>
    rw [Run.text_eq_styledAll, Run.styledAll_ofSpans, hblank]
    split
    next => rfl
    next => rw [hread, String.ofList_toList]

/-- What is left of a text without the white space around it is visible. -/
theorem blank_excerpt {raw : String} (h : excerpt raw ≠ "") : blank (excerpt raw) = false := by
  rcases trim_eq_nil_or (Html.visibleText raw.toList) with ⟨-, hnone⟩ | ⟨c, rest, htrim, hc⟩
  · simp [excerpt, hnone] at h
  · rw [excerpt, htrim, blank, String.toList_ofList, List.all_cons, hc, Bool.false_and]

/-- A visible text is told as it is exactly where one of its references has too many digits, or
decoding it changes nothing. -/
theorem retold_eq_iff {text : String} (h : blank text = false) :
    retold text = text ↔ (Html.oversized? text.toList).isSome ∨ Run.decoded text = text := by
  unfold retold
  split
  next hdigits => exact iff_of_true rfl (.inl hdigits)
  next hdigits =>
    rw [or_iff_right hdigits]
    split
    next hblank =>
      refine iff_of_false ?_ ?_
      · rintro rfl
        exact absurd h (by decide)
      · intro heq
        rw [heq, h] at hblank
        cases hblank
    next => rfl

/-- Markup that shows text, at the top of a document or in an item of a list there, becomes a
paragraph with its images behind it, in one place whatever the markup is. As any other text the
paragraph is decoded once more. So it tells what the markup shows exactly where decoding that
changes nothing, or nobody can decode it. -/
theorem compile_excerpt (base : Option String) (assets : Assets) (before after : List Markdown.Block) (place : Place) :
    ∃ front back : List Block, ∀ raw, excerpt raw ≠ "" →
      Node.readError? (before ++ place.fill (.html raw) :: after) = none →
      ∃ nodes runs images, nodesOf base (before ++ place.fill (.html raw) :: after) = .ok nodes ∧
        (compile assets nodes).blocks = front ++ (.paragraph runs :: images) ++ back ∧
        (∀ b ∈ images, b.isImage = true) ∧ Run.text runs = retold (excerpt raw) ∧
        (Run.text runs = excerpt raw ↔
          (Html.oversized? (excerpt raw).toList).isSome ∨ Run.decoded (excerpt raw) = excerpt raw) := by
  obtain ⟨front, back, hplace⟩ := Node.ofBlock_fill base 0 place
  let blocks (nodes : List Node) : List Block := nodes.flatMap fun n => (n.compile assets 0).blocks
  refine ⟨blocks (before.flatMap (Node.ofBlock base 0) ++ front), blocks (back ++ after.flatMap (Node.ofBlock base 0)),
    fun raw hraw hread => ?_⟩
  obtain ⟨images, hhtml, himages⟩ := Node.ofHtml_of_excerpt base hraw
  have htext := text_ofPlain (excerpt raw)
  refine ⟨Node.ofBlocks base (before ++ place.fill (.html raw) :: after), Run.ofPlain (excerpt raw), blocks images,
    by simp only [nodesOf, hread], ?_, ?_, htext, by rw [htext, retold_eq_iff (blank_excerpt hraw)]⟩
  · rw [compile, blocks_compileFrom, Node.ofBlocks, List.flatMap_append, List.flatMap_cons, hplace raw hraw, hhtml]
    simp only [blocks, List.flatMap_append, List.flatMap_cons, blocks_plain (blank_excerpt hraw), List.append_assoc,
      List.cons_append, List.nil_append]
  · intro b hb
    obtain ⟨n, hn, hb⟩ := List.mem_flatMap.1 hb
    obtain ⟨url, alt, rfl⟩ := himages n hn
    exact blocks_image url alt b hb

/-- Markup that shows how a reference is written becomes a paragraph of what the reference stands
for. -/
theorem shownReference_decoded :
    excerpt "<p>&amp;lt;</p>" = "&lt;" ∧
      nodesOf none [.html "<p>&amp;lt;</p>"] = .ok [.paragraph (some [.plain "&lt;"])] ∧
      (compile [] [.paragraph (some [.plain "&lt;"])]).blocks = [.paragraph [{ content := "<" }]] := by
  refine ⟨?_, ?_, ?_⟩
  · decide +kernel
  · rfl
  · decide +kernel

end WebClip.Page
