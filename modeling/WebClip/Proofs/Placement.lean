import WebClip.Proofs.Pages
import WebClip.Proofs.Resolving
/-!
# Where pictures are placed

The image blocks of a page are those of its pictures, one for one and in order, each behind
the text it stands in. The URLs collected from the nodes are all that compiling looks up, so
an image that was uploaded under them is shown from its upload.
-/

namespace WebClip.Page

variable {assets : Assets}

/-! ## Blocks in order -/

/-- Nodes that can be compiled give their own blocks and those of their pictures in order. -/
theorem compileFrom_eq {nodes : List Node} (h : ∀ n ∈ nodes, n.error? = none) (index : Nat) :
    (compileFrom assets index nodes).blocks = nodes.flatMap (fun n => n.ownBlocks assets ++ n.pictureBlocks assets) ∧
      (compileFrom assets index nodes).diagnostics =
        (nodes.flatMap Node.pictures).filterMap (Picture.diagnostic? assets) := by
  induction nodes generalizing index with
  | nil => exact ⟨rfl, rfl⟩
  | cons n rest ih =>
    obtain ⟨hn, hrest⟩ := List.forall_mem_cons.1 h
    obtain ⟨hb, hd⟩ := ih hrest (index + 1)
    obtain ⟨hb', hd'⟩ := Node.compileSound_eq hn
    rw [compileFrom, Compiled.blocks_append, Compiled.diagnostics_append, Node.compile_of_sound hn, hb, hd, hb', hd']
    simp

theorem isImage_of_mem_compileCode {language text : String} {b : Block}
    (h : b ∈ (compileCode language text).blocks) : b.isImage = false := by
  unfold compileCode at h
  dsimp only at h
  split at h
  · rw [List.mem_singleton.1 h]
    rfl
  · obtain ⟨part, -, rfl⟩ := List.mem_map.1 h
    rfl

theorem isImage_of_textBlock? {n : Node} {b : Block} (h : n.textBlock? = some b) : b.isImage = false := by
  cases n <;> cases h <;> rfl

/-- No picture is among the blocks of a node's own. -/
theorem isImage_of_mem_ownBlocks {n : Node} {b : Block} (h : b ∈ n.ownBlocks assets) : b.isImage = false := by
  cases n with
  | code language text => exact isImage_of_mem_compileCode h
  | rule =>
    rw [List.mem_singleton.1 h]
    rfl
  | _ => exact isImage_of_textBlock? (Option.mem_toList.1 (List.mem_filter.1 h).1)

/-- The images among the blocks of a node that can be compiled are those of its pictures. -/
theorem images_node (n : Node) : (n.ownBlocks assets ++ n.pictureBlocks assets).filter Block.isImage =
    n.pictures.filterMap (Picture.block? assets) := by
  have hown : (n.ownBlocks assets).filter Block.isImage = [] :=
    List.filter_eq_nil_iff.2 fun b hb => by simp [isImage_of_mem_ownBlocks hb]
  have hpictures : (n.pictureBlocks assets).filter Block.isImage = n.pictureBlocks assets := by
    refine List.filter_eq_self.2 fun b hb => ?_
    obtain ⟨p, -, hp⟩ := List.mem_filterMap.1 hb
    exact Picture.isImage_of_block? hp
  rw [List.filter_append, hown, hpictures]
  rfl

/-- The images of a page are the blocks of the pictures of its nodes that can be compiled. -/
theorem images_compileFrom (nodes : List Node) (index : Nat) :
    (compileFrom assets index nodes).blocks.filter Block.isImage =
      ((nodes.filter (·.error?.isNone)).flatMap Node.pictures).filterMap (Picture.block? assets) := by
  induction nodes generalizing index with
  | nil => rfl
  | cons n rest ih =>
    rw [compileFrom, Compiled.blocks_append, List.filter_append, ih]
    cases he : n.error? with
    | none =>
      rw [List.filter_cons_of_pos (by simp [he]), List.flatMap_cons, List.filterMap_append, Node.compile_of_sound he,
        (Node.compileSound_eq he).1, images_node]
    | some e =>
      -- the plain text that stands for a node is no image
      rw [List.filter_cons_of_neg (by simp [he]), Node.blocks_compile_of_error he]
      obtain ⟨-, hb | ⟨text, -, hb⟩⟩ := n.fallback_eq <;> rw [hb] <;> rfl

/-- The images of a page are the blocks of its pictures. -/
theorem images_compile {nodes : List Node} (h : ∀ n ∈ nodes, n.error? = none) :
    (compile assets nodes).blocks.filter Block.isImage = (nodes.flatMap Node.pictures).filterMap (Picture.block? assets) := by
  have hall : nodes.filter (·.error?.isNone) = nodes := List.filter_eq_self.2 fun n hn => by simp [h n hn]
  rw [compile, images_compileFrom, hall]

/-- The block of a node's text leads those of its pictures. It is missing only where it has
nothing to say and there are pictures to show. -/
theorem ownBlocks_of_text {n : Node} {b : Block} (h : n.textBlock? = some b) :
    n.ownBlocks assets = [b] ∨ n.ownBlocks assets = [] ∧ b.runs = [] ∧ n.pictureBlocks assets ≠ [] := by
  have hown : n.ownBlocks assets =
      [b].filter fun b => !b.runs.isEmpty || (n.pictureBlocks assets).isEmpty || n.isItem := by
    cases n <;> cases h <;> rfl
  rw [hown]
  -- the text is dropped only when all three reasons to keep it fail
  by_cases hkeep : (!b.runs.isEmpty || (n.pictureBlocks assets).isEmpty || n.isItem) = true
  · exact .inl (List.filter_eq_self.2 (by simpa using hkeep))
  · refine .inr ⟨List.filter_eq_nil_iff.2 (by simpa using hkeep), ?_⟩
    simp only [Bool.or_eq_true, Bool.not_eq_true', not_or, Bool.not_eq_false, List.isEmpty_iff] at hkeep
    exact hkeep.1

/-- A picture has a block or a diagnostic. -/
theorem length_blocks_add_diagnostics (pictures : List Picture) :
    (pictures.filterMap (Picture.block? assets)).length + (pictures.filterMap (Picture.diagnostic? assets)).length =
      pictures.length := by
  induction pictures with
  | nil => rfl
  | cons p rest ih =>
    rw [List.filterMap_cons, List.filterMap_cons, Picture.diagnostic?]
    cases p.block? assets with
    | none =>
      simp only [List.length_cons]
      omega
    | some b =>
      simp only [List.length_cons]
      omega

/-- The caption of a picture is its description. -/
theorem caption_of_block? {p : Picture} {b : Block} (h : p.block? assets = some b) : Run.text b.runs = p.alt := by
  unfold Picture.block? at h
  split at h
  · cases h
    exact Run.text_ofText p.alt
  · split at h
    · cases h
      exact Run.text_ofText p.alt
    · cases h

/-! ## URLs -/

theorem imageUrls_eq (n : Node) : n.imageUrls = n.pictures.map Picture.url := by
  have hspans (spans : List Span) : spans.filterMap (·.image) = (spans.filterMap Span.picture?).map Picture.url := by
    rw [List.map_filterMap]
    refine List.filterMap_congr fun s _ => ?_
    cases h : s.image <;> simp [Span.picture?, h]
  cases n with
  | image => rfl
  | _ => exact hspans _

theorem collectUrls_eq (nodes : List Node) :
    Node.collectUrls nodes = Image.distinct ((nodes.flatMap Node.pictures).map Picture.url) := by
  have h : nodes.flatMap Node.imageUrls = (nodes.flatMap Node.pictures).map Picture.url := by
    rw [List.map_flatMap]
    exact List.flatMap_congr fun n _ => imageUrls_eq n
  rw [← h]
  rfl

theorem mem_collectUrls {nodes : List Node} {url : String} :
    url ∈ Node.collectUrls nodes ↔ (∃ p ∈ nodes.flatMap Node.pictures, p.url = url) ∧ url ≠ "" := by
  rw [collectUrls_eq, Image.mem_distinct, List.mem_map]

/-! ## Lookups -/

section Lookups
variable {other : Assets}

theorem compileImage_congr {url : String} (h : other.lookup url = assets.lookup url) (alt : String) :
    compileImage other url alt = compileImage assets url alt := by
  unfold compileImage assetFor
  rw [h]

theorem compileImages_congr {spans : List Span}
    (h : ∀ p ∈ spans.filterMap Span.picture?, other.lookup p.url = assets.lookup p.url) :
    compileImages other spans = compileImages assets spans := by
  unfold compileImages
  refine congrArg Compiled.concat (List.map_congr_left fun s hs => ?_)
  cases hi : s.image with
  | none => rfl
  | some url =>
    refine compileImage_congr (h ⟨url, s.text⟩ (List.mem_filterMap.2 ⟨s, hs, ?_⟩)) s.text
    simp [Span.picture?, hi]

theorem compileSound_congr {n : Node} (h : ∀ p ∈ n.pictures, other.lookup p.url = assets.lookup p.url) :
    n.compileSound other = n.compileSound assets := by
  cases n with
  | image url alt => exact compileImage_congr (h ⟨url, alt⟩ (List.mem_singleton.2 rfl)) alt
  | code | rule | foreign => rfl
  | heading level spans | paragraph spans | quote spans | item ordered spans depth =>
    have hi : compileImages other (spans.getD []) = compileImages assets (spans.getD []) := compileImages_congr h
    simp only [Node.compileSound, withImages, hi]

/-- Compiling looks up the URLs of pictures and no others. -/
theorem compileFrom_congr {nodes : List Node} {index : Nat}
    (h : ∀ p ∈ nodes.flatMap Node.pictures, other.lookup p.url = assets.lookup p.url) :
    compileFrom other index nodes = compileFrom assets index nodes := by
  induction nodes generalizing index with
  | nil => rfl
  | cons n rest ih =>
    rw [List.flatMap_cons, List.forall_mem_append] at h
    rw [compileFrom, compileFrom, ih h.2, Node.compile, Node.compile, compileSound_congr h.1]

end Lookups

/-! ## Pictures and their blocks -/

/-- A picture whose upload has an id to be known by is shown from there. -/
theorem block?_of_uploaded {p : Picture} {id : Value} (h : assets.lookup p.url = some (Image.uploadedAt p.url id))
    (hr : (Image.uploadedAt p.url id).isResolved = true) :
    p.block? assets = some (.image (.upload id.display) (Run.ofText p.alt)) := by
  have hs : Picture.settled? assets p.url = some (Image.uploadedAt p.url id) := by
    rw [Picture.settled?, h]
    exact Option.filter_eq_some_iff.2 ⟨rfl, hr⟩
  have hmoved : p.isMoved assets = true := by
    rw [Picture.isMoved, hs]
    rfl
  have hplace : p.place assets = id.display := by
    rw [Picture.place, hs]
    cases id with
    | null => cases hr
    | _ => rfl
  rw [Picture.block?, if_pos hmoved, hplace]

open Act in
/-- The pictures of nodes that can be compiled and the image blocks of their page correspond one
to one: a picture has its block, in its place and with its description, or exactly one
diagnostic. Compiling depends on assets at the collected URLs alone, besides the empty one; these
are the pictures' URLs, each once and in the order of the first occurrences. With the assets
found for them, an image noted as uploaded is shown from its upload wherever it stands, unless
the service gave an empty id. -/
theorem compile_pictures {nodes : List Node} (h : ∀ n ∈ nodes, n.error? = none) (assets : Assets) :
    (compile assets nodes).blocks.filter Block.isImage =
        (nodes.flatMap Node.pictures).filterMap (Picture.block? assets) ∧
      (compile assets nodes).diagnostics = (nodes.flatMap Node.pictures).filterMap (Picture.diagnostic? assets) ∧
      ((compile assets nodes).blocks.filter Block.isImage).length + (compile assets nodes).diagnostics.length =
        (nodes.flatMap Node.pictures).length ∧
      (∀ p b, Picture.block? assets p = some b → Run.text b.runs = p.alt) ∧
      (compile assets nodes).blocks = nodes.flatMap (fun n => n.ownBlocks assets ++ n.pictureBlocks assets) ∧
      (∀ n : Node, (∀ b ∈ n.ownBlocks assets, b.isImage = false) ∧ ∀ b, n.textBlock? = some b →
        n.ownBlocks assets = [b] ∨ n.ownBlocks assets = [] ∧ b.runs = [] ∧ n.pictureBlocks assets ≠ []) ∧
      (∀ other : Assets, (∀ url, url = "" ∨ url ∈ Node.collectUrls nodes → other.lookup url = assets.lookup url) →
        compile other nodes = compile assets nodes) ∧
      (Node.collectUrls nodes).Nodup ∧
      Node.collectUrls nodes =
        (((nodes.flatMap Node.pictures).map Picture.url).filter (!·.isEmpty)).eraseDups ∧
      ∀ (σ τ : Type) [Clock τ] (c : Clipper σ τ) (others : List String) (upload : Bool),
        Ensures c (fun ms r => ∀ found, r = .ok found → ∀ p ∈ nodes.flatMap Node.pictures,
          (p.url ≠ "" → (found.lookup p.url).isSome) ∧
          (.noted p.url .uploaded ∈ ms → ∃ id, found.lookup p.url = some (Image.uploadedAt p.url id) ∧
            ((Image.uploadedAt p.url id).isResolved = true →
              p.block? found = some (.image (.upload id.display) (Run.ofText p.alt)))))
          (Image.resolveAll (Node.collectUrls nodes ++ others) upload) := by
  have himages := @images_compile assets _ h
  have hdiagnostics := (@compileFrom_eq assets _ h 0).2
  refine ⟨himages, hdiagnostics, ?_, fun p b hb => caption_of_block? hb, (compileFrom_eq h 0).1,
    fun n => ⟨fun b hb => isImage_of_mem_ownBlocks hb, fun b hb => ownBlocks_of_text hb⟩, ?_, ?_, ?_, ?_⟩
  · rw [himages, compile, hdiagnostics]
    exact length_blocks_add_diagnostics _
  · intro other hother
    refine compileFrom_congr fun p hp => hother p.url ?_
    -- an empty URL is never collected, but it is looked up like any other
    by_cases hu : p.url = ""
    · exact .inl hu
    · exact .inr (mem_collectUrls.2 ⟨⟨p, hp, rfl⟩, hu⟩)
  · rw [collectUrls_eq]
    exact Image.nodup_distinct _
  · rw [collectUrls_eq, Image.distinct_eq]
  · intro σ τ _ c others upload
    refine (Image.resolveAll_ensures _ upload).mono fun ms r hr found hfound p hp => ?_
    obtain ⟨hkeys, htell⟩ := hr.2 found hfound
    refine ⟨fun hu => ?_, fun hm => ?_⟩
    · have hmem : p.url ∈ found.map (·.1) := by
        rw [hkeys, Image.mem_distinct, List.mem_append]
        exact ⟨.inl (mem_collectUrls.2 ⟨⟨p, hp, rfl⟩, hu⟩), hu⟩
      obtain ⟨q, hq, hurl⟩ := List.mem_map.1 hmem
      exact List.lookup_isSome_iff.2 ⟨q, hq, beq_iff_eq.2 hurl.symm⟩
    · obtain ⟨id, hid⟩ := htell p.url hm
      exact ⟨id, hid, block?_of_uploaded hid⟩

/-- One image among text and once more alone. -/
def imageTwice : List Node :=
  [.paragraph (some [.plain "a", { text := "x", image := some "u" }]), .image "u" "y"]

/-- Both are shown from the upload, each with its own description. -/
theorem imageTwice_pictures :
    (∀ n ∈ imageTwice, n.error? = none) ∧
      (compile [("u", .uploaded "u" "id")] imageTwice).blocks.filter Block.isImage =
        [.image (.upload "id") (Run.ofText "x"), .image (.upload "id") (Run.ofText "y")] := by
  have h : ∀ n ∈ imageTwice, n.error? = none := by
    rintro n hn
    rcases List.mem_cons.1 hn with rfl | hn
    · rfl
    · rw [List.mem_singleton.1 hn]
      rfl
  exact ⟨h, (compile_pictures h _).1⟩

end WebClip.Page
