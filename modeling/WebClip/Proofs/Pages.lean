import WebClip.Page.Compile
import WebClip.Proofs.Runs
/-!
# What a page is compiled into

A node that can be compiled gives blocks of its own and behind them the blocks of its
pictures, and every picture gives a block or a diagnostic. A node that cannot be compiled
gives one diagnostic and at most a paragraph of plain text.
-/

namespace WebClip.Page

/-! ## Results put together -/

namespace Compiled

@[simp] theorem blocks_append (a b : Compiled) : (a.append b).blocks = a.blocks ++ b.blocks := rfl

@[simp] theorem diagnostics_append (a b : Compiled) :
    (a.append b).diagnostics = a.diagnostics ++ b.diagnostics := rfl

theorem blocks_concat (cs : List Compiled) : (concat cs).blocks = cs.flatMap (·.blocks) := by
  induction cs with
  | nil => rfl
  | cons c rest ih => rw [concat, List.foldr_cons, blocks_append, ← concat, ih, List.flatMap_cons]

theorem diagnostics_concat (cs : List Compiled) :
    (concat cs).diagnostics = cs.flatMap (·.diagnostics) := by
  induction cs with
  | nil => rfl
  | cons c rest ih => rw [concat, List.foldr_cons, diagnostics_append, ← concat, ih, List.flatMap_cons]

end Compiled

/-! ## Pictures -/

/-- An image that a page shows, and its description. -/
structure Picture where
  url : String
  alt : String
  deriving DecidableEq

/-- The picture that a span is, if it is one. -/
def Span.picture? (s : Span) : Option Picture := s.image.map fun url => ⟨url, s.text⟩

/-- The pictures of a node in order. -/
def Node.pictures : Node → List Picture
  | .image url alt => [⟨url, alt⟩]
  | n => (n.spans?.getD []).filterMap Span.picture?

namespace Picture

variable (assets : Assets)

/-- What the image at a URL has become, if that is known. -/
def settled? (url : String) : Option Asset := (assets.lookup url).filter (·.isResolved)

/-- Whether a picture is known to be in an upload. -/
def isMoved (p : Picture) : Bool := (settled? assets p.url).any (·.isUploaded)

/-- Where a picture is found: the id or URL that is known of it, or else its own URL. -/
def place (p : Picture) : String := ((settled? assets p.url).bind (·.value)).getD p.url

/-- The block of a picture: at its upload, or at a URL that a page can show. -/
def block? (p : Picture) : Option Block :=
  if p.isMoved assets then some (.image (.upload (p.place assets)) (Run.ofText p.alt))
  else if isEmbeddable (p.place assets) then some (.image (.external (p.place assets)) (Run.ofText p.alt))
  else none

/-- The diagnostic of a picture that has no block. -/
def diagnostic? (p : Picture) : Option String :=
  match p.block? assets with
  | some _ => none
  | none =>
    some ("Dropping image with unusable external URL (" ++ toString (p.place assets).length ++
      " chars): " ++ String.ofList ((p.place assets).toList.take 80))

variable {assets}

theorem assetFor_eq (assets : Assets) (p : Picture) :
    (assetFor assets p.url).value = some (p.place assets) ∧
      (assetFor assets p.url).isUploaded = p.isMoved assets := by
  unfold assetFor place isMoved settled?
  cases assets.lookup p.url with
  | none => exact ⟨rfl, rfl⟩
  | some a =>
    by_cases hr : a.isResolved = true
    · obtain ⟨v, hv⟩ : ∃ v, a.value = some v := by
        cases h : a.value with
        | none => simp [Asset.isResolved, h] at hr
        | some v => exact ⟨v, rfl⟩
      simp [hr, hv, Option.filter_some]
    · simp only [hr, Option.filter_some]
      exact ⟨rfl, rfl⟩

/-- A picture gives its block or its diagnostic. -/
theorem compileImage_eq (assets : Assets) (p : Picture) :
    (compileImage assets p.url p.alt).blocks = (p.block? assets).toList ∧
      (compileImage assets p.url p.alt).diagnostics = (p.diagnostic? assets).toList := by
  obtain ⟨hv, hu⟩ := assetFor_eq assets p
  unfold compileImage diagnostic? block?
  simp only [hv, hu, Option.getD_some]
  cases p.isMoved assets
  · cases isEmbeddable (p.place assets) <;> exact ⟨rfl, rfl⟩
  · exact ⟨rfl, rfl⟩

/-- What a picture in an upload is known by is never empty. -/
theorem place_ne_empty {p : Picture} (h : p.isMoved assets = true) : p.place assets ≠ "" := by
  unfold isMoved at h
  obtain ⟨a, ha, -⟩ := (Option.any_eq_true _ _).1 h
  obtain ⟨-, hr⟩ := Option.filter_eq_some_iff.1 ha
  unfold place
  rw [ha]
  simp only [Asset.isResolved, Bool.and_eq_true] at hr
  cases hv : a.value with
  | none => simp [hv] at hr
  | some v => simpa [hv] using hr.2

theorem isImage_of_block? {p : Picture} {b : Block} (h : p.block? assets = some b) : b.isImage = true := by
  unfold block? at h
  split at h
  · cases h; rfl
  · split at h
    · cases h; rfl
    · cases h

end Picture

/-! ## Nodes -/

namespace Node

variable (assets : Assets)

/-- The blocks of a node's pictures. -/
def pictureBlocks (n : Node) : List Block := n.pictures.filterMap (Picture.block? assets)

/-- The block of a node's text. -/
def textBlock? : Node → Option Block
  | heading level spans =>
    some (.heading (match headingLevel level with | .ok level => level | .error _ => 1)
      (Run.ofSpans (spans.getD [])))
  | paragraph spans => some (.paragraph (Run.ofSpans (spans.getD [])))
  | quote spans => some (.quote (Run.ofSpans (spans.getD [])))
  | item ordered spans _ => some (.item ordered (Run.ofSpans (spans.getD [])))
  | code .. | rule | image .. | foreign _ => none

/-- Whether the block of a node's text is there even when it is empty. -/
def isItem : Node → Bool
  | item .. => true
  | _ => false

/-- The blocks of a node that are not its pictures. A text without runs has none where
there are pictures to stand for it. -/
def ownBlocks : Node → List Block
  | code language text => (compileCode language text).blocks
  | rule => [.divider]
  | n => n.textBlock?.toList.filter fun b =>
    !b.runs.isEmpty || (n.pictureBlocks assets).isEmpty || n.isItem

variable {assets}

theorem compileImages_eq (assets : Assets) (spans : List Span) :
    (compileImages assets spans).blocks = (spans.filterMap Span.picture?).filterMap (Picture.block? assets) ∧
      (compileImages assets spans).diagnostics =
        (spans.filterMap Span.picture?).filterMap (Picture.diagnostic? assets) := by
  rw [compileImages, Compiled.blocks_concat, Compiled.diagnostics_concat, List.flatMap_map, List.flatMap_map]
  induction spans with
  | nil => exact ⟨rfl, rfl⟩
  | cons s rest ih =>
    rw [List.flatMap_cons, List.flatMap_cons, ih.1, ih.2]
    cases hi : s.image with
    | none => simp [Span.picture?, hi]
    | some url =>
      obtain ⟨hb, hd⟩ := Picture.compileImage_eq assets ⟨url, s.text⟩
      simp only at hb hd
      simp only [hb, hd, Span.picture?, hi, Option.map_some, List.filterMap_cons]
      constructor
      · cases Picture.block? assets ⟨url, s.text⟩ <;> rfl
      · cases Picture.diagnostic? assets ⟨url, s.text⟩ <;> rfl

theorem withImages_eq (keep : Bool) (b : Block) (spans : List Span) :
    (withImages assets keep b spans).blocks =
        [b].filter (fun b => !b.runs.isEmpty || (compileImages assets spans).blocks.isEmpty || keep) ++
          (compileImages assets spans).blocks ∧
      (withImages assets keep b spans).diagnostics = (compileImages assets spans).diagnostics := by
  unfold withImages
  -- the code says when the text is dropped, the statement when it is kept
  cases h : (b.runs.isEmpty && !(compileImages assets spans).blocks.isEmpty && !keep)
  · have h' : (!b.runs.isEmpty || (compileImages assets spans).blocks.isEmpty || keep) = true := by
      revert h
      cases b.runs.isEmpty <;> cases (compileImages assets spans).blocks.isEmpty <;> cases keep <;> simp
    simp [h, h', Compiled.block]
  · have h' : (!b.runs.isEmpty || (compileImages assets spans).blocks.isEmpty || keep) = false := by
      revert h
      cases b.runs.isEmpty <;> cases (compileImages assets spans).blocks.isEmpty <;> cases keep <;> simp
    simp [h, h']

/-- A node that can be compiled gives its own blocks and then those of its pictures. -/
theorem compileSound_eq {n : Node} (h : n.error? = none) :
    (n.compileSound assets).blocks = n.ownBlocks assets ++ n.pictureBlocks assets ∧
      (n.compileSound assets).diagnostics = n.pictures.filterMap (Picture.diagnostic? assets) := by
  cases n with
  | code language text => exact ⟨by simp [compileSound, ownBlocks, pictureBlocks, pictures, spans?], rfl⟩
  | rule => exact ⟨rfl, rfl⟩
  | image url alt =>
    obtain ⟨hb, hd⟩ := Picture.compileImage_eq assets ⟨url, alt⟩
    simp only [compileSound, ownBlocks, textBlock?, pictureBlocks, pictures]
    constructor
    · rw [hb]
      cases hp : Picture.block? assets ⟨url, alt⟩ <;> simp [hp]
    · rw [hd]
      cases hp : Picture.diagnostic? assets ⟨url, alt⟩ <;> simp [hp]
  | foreign spans => simp [error?] at h
  | heading level spans | paragraph spans | quote spans | item ordered spans depth =>
    obtain ⟨hb, hd⟩ := compileImages_eq assets (spans.getD [])
    simp only [compileSound, withImages_eq, hb, hd]
    exact ⟨rfl, rfl⟩

theorem fallback_eq (n : Node) :
    n.fallback.diagnostics = [] ∧
      (n.fallback.blocks = [] ∨ ∃ text, n.text? = some text ∧ n.fallback.blocks = [.paragraph (Run.ofText text)]) := by
  unfold fallback
  cases n.text? with
  | none => exact ⟨rfl, .inl rfl⟩
  | some text =>
    by_cases hb : Text.blank text = true
    · simp [hb]
    · exact ⟨by simp [hb, Compiled.block], .inr ⟨text, rfl, by simp [hb, Compiled.block]⟩⟩

theorem compile_of_sound {n : Node} (h : n.error? = none) (index : Nat) :
    n.compile assets index = n.compileSound assets := by
  simp [compile, h]

theorem blocks_compile_of_error {n : Node} {e : Fault} (h : n.error? = some e) (index : Nat) :
    (n.compile assets index).blocks = n.fallback.blocks := by
  simp [compile, h, Compiled.diagnostic]

end Node

/-! ## Pages -/

variable {assets : Assets}

theorem mem_blocks_compileFrom {nodes : List Node} {index : Nat} {b : Block} :
    b ∈ (compileFrom assets index nodes).blocks ↔
      ∃ n ∈ nodes, (n.error? = none ∧ b ∈ (n.compileSound assets).blocks) ∨
        (n.error? ≠ none ∧ b ∈ n.fallback.blocks) := by
  induction nodes generalizing index with
  | nil => simp [compileFrom]
  | cons n rest ih =>
    rw [compileFrom, Compiled.blocks_append, List.mem_append, ih]
    cases h : n.error? with
    | none => simp [Node.compile_of_sound h, h]
    | some e => simp [Node.blocks_compile_of_error h, h]

/-- The blocks of a node do not depend on where it stands. -/
theorem blocks_compileFrom (nodes : List Node) (index : Nat) :
    (compileFrom assets index nodes).blocks = nodes.flatMap fun n => (n.compile assets 0).blocks := by
  induction nodes generalizing index with
  | nil => rfl
  | cons n rest ih =>
    have hn : (n.compile assets index).blocks = (n.compile assets 0).blocks := by
      cases he : n.error? with
      | none => rw [Node.compile_of_sound he, Node.compile_of_sound he]
      | some e => rw [Node.blocks_compile_of_error he, Node.blocks_compile_of_error he]
    rw [compileFrom, Compiled.blocks_append, ih, List.flatMap_cons, hn]

end WebClip.Page
