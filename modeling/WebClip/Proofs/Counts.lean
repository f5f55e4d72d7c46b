import WebClip.Proofs.Captions
import WebClip.Proofs.Coverage
/-!
# What a save counts

A save that returns counts what it has sent: so many blocks, so many images in uploads and so many
at URLs of their own, which are those that a sweep would take up. With what it has dropped these
are the pictures of the article.
-/

namespace WebClip

open Act

/-! ## Blocks as they are sent -/

namespace Page.Block

theorem kindName_heading_ne (level : Int) (text : List Run) : (heading level text).kindName ≠ "image" := by
  intro h
  have hchars := congrArg String.toList h
  rw [show (heading level text).kindName = "heading_" ++ toString level from rfl, String.toList_append] at hchars
  cases hchars

theorem kindName_ne {b : Block} (h : b.isImage = false) : b.kindName ≠ "image" := by
  cases b with
  | heading level text => exact kindName_heading_ne level text
  | item ordered text => cases ordered <;> simp [kindName]
  | image => cases h
  | _ => simp [kindName]

/-- A block that is sent is known for an image at a URL of its own exactly if it is one. -/
theorem isExternal_toValue (b : Block) : Sweep.isExternal b.toValue = (b.isImage && !b.isUpload) := by
  cases hb : b.isImage with
  | false =>
    have hkind : Reply.isExternalImage b.toValue = .ok false := by
      simp [Reply.isExternalImage, Reply.get, Reply.getD, toValue, bind, Except.bind, pure, Except.pure,
        Value.text?, kindName_ne hb]
    rw [Sweep.isExternal, hkind]
    rfl
  | true =>
    cases b with
    | image target caption => cases target <;> rfl
    | _ => cases hb

end Page.Block

namespace Save

/-- Whether a block that is sent is an image in an upload. -/
def isUploadedImage (block : Value) : Bool :=
  (block.field? "type").bind Value.text? = some "image" &&
    ((block.field? "image").bind (·.field? "type")).bind Value.text? = some "file_upload"

theorem isUploadedImage_toValue (b : Page.Block) : isUploadedImage b.toValue = b.isUpload := by
  cases hb : b.isImage with
  | false =>
    have hnone : b.isUpload = false := by
      cases b with
      | image => cases hb
      | _ => rfl
    simp [isUploadedImage, Page.Block.toValue, Value.field?, Value.text?, Page.Block.kindName_ne hb, hnone]
  | true =>
    cases b with
    | image target caption => cases target <;> rfl
    | _ => cases hb

/-! ## Counting -/

variable {blocks : List Page.Block}

theorem filter_isUpload (blocks : List Page.Block) :
    (blocks.filter Page.Block.isImage).filter Page.Block.isUpload = blocks.filter Page.Block.isUpload := by
  rw [List.filter_filter]
  refine List.filter_congr fun b _ => ?_
  cases b <;> simp [Page.Block.isUpload, Page.Block.isImage]

theorem countP_isUploadedImage (blocks : List Page.Block) :
    (blocks.map Page.Block.toValue).countP isUploadedImage =
      ((blocks.filter Page.Block.isImage).filter Page.Block.isUpload).length := by
  rw [List.countP_map, filter_isUpload, ← List.countP_eq_length_filter]
  exact List.countP_congr fun b _ => by simp [isUploadedImage_toValue]

/-- The images that are not in uploads are those at URLs of their own. -/
theorem countP_isExternal (blocks : List Page.Block) :
    (blocks.map Page.Block.toValue).countP Sweep.isExternal =
      (blocks.filter Page.Block.isImage).length - ((blocks.filter Page.Block.isImage).filter Page.Block.isUpload).length := by
  have hall := List.length_eq_countP_add_countP Page.Block.isUpload (l := blocks.filter Page.Block.isImage)
  have hexternal : (blocks.map Page.Block.toValue).countP Sweep.isExternal =
      (blocks.filter Page.Block.isImage).countP fun b => ¬ b.isUpload = true := by
    rw [List.countP_map, List.countP_filter]
    refine List.countP_congr fun b _ => ?_
    simp [Page.Block.isExternal_toValue, and_comm]
  rw [List.countP_eq_length_filter] at hall
  omega

variable {article : Article}

/-- Every picture of an article whose nodes can all be compiled is an image of its page, or dropped. -/
theorem Composition.pictures_counted (k : Composition article) (hsound : ∀ n ∈ k.nodes, n.error? = none) :
    (k.compiled.blocks.filter Page.Block.isImage).length + k.compiled.diagnostics.length =
      (k.nodes.flatMap Page.Node.pictures).length := by
  rw [k.images_eq, k.diagnostics_eq hsound, Page.length_blocks_add_diagnostics, k.shown_of_sound hsound]
  simp [List.length_flatMap]

variable {σ τ : Type} [Clock τ] {c : Clipper σ τ}

/-- A save that returns counts what it has sent: all blocks of its requests, and the images among them that are in
uploads and those at URLs of their own. With the blocks it calls dropped they are all the pictures of the article,
unless a node of it cannot be compiled. -/
theorem run_counts (article : Article) (database : Value) (given : Mapping) (download limit : Value)
    (s : Session σ τ) {saved : Saved} (hr : (carryOut (run article database given download limit) c s).1 = .ok saved) :
    ∃ ms nodes, Session.Path c s ms (carryOut (run article database given download limit) c s).2 ∧
      nodesOf article = .ok nodes ∧
      saved.blockCount = (Move.sentBlocks ms).length ∧
      saved.uploadedImages = (Move.sentBlocks ms).countP isUploadedImage ∧
      saved.externalImages = (Move.sentBlocks ms).countP Sweep.isExternal ∧
      ((∀ n ∈ nodes, n.error? = none) →
        saved.uploadedImages + saved.externalImages + saved.droppedBlocks =
          (nodes.flatMap Page.Node.pictures).length) := by
  obtain ⟨ms, hp, hends⟩ := run_ends (c := c) article database given download limit s
  rw [hr] at hends
  rcases hends with ⟨-, hnone⟩ | ⟨k, hk⟩
  · exact absurd rfl (hnone saved)
  obtain ⟨hsent, hcounts⟩ := hk.whole saved rfl
  have hblocks : Move.sentBlocks ms = k.compiled.blocks.map Page.Block.toValue := hsent
  refine ⟨ms, k.nodes, hp, k.nodes_eq, ?_, ?_, ?_, fun hsound => ?_⟩
  · rw [hblocks, List.length_map, hcounts.blocks]
  · rw [hblocks, countP_isUploadedImage, hcounts.uploaded]
  · rw [hblocks, countP_isExternal, hcounts.external, hcounts.uploaded]
  · have hall := k.pictures_counted hsound
    have hle : saved.uploadedImages ≤ (k.compiled.blocks.filter Page.Block.isImage).length :=
      hcounts.uploaded ▸ List.length_filter_le _ _
    rw [hcounts.external, hcounts.dropped]
    omega

/-- Whether all nodes of an article can be compiled. -/
def isSound (article : Article) : Bool :=
  match nodesOf article with
  | .ok nodes => nodes.all (·.error?.isNone)
  | .error _ => true

theorem error?_of_isSound (h : isSound article = true) {nodes : List Page.Node} (hnodes : nodesOf article = .ok nodes) :
    ∀ n ∈ nodes, n.error? = none := by
  intro n hn
  rw [isSound, hnodes] at h
  simpa using List.all_eq_true.1 h n hn

section Dropped

/-- An article with a picture that a page can show from its URL, and one that it cannot show. -/
def twoPictures : Article := { content := .text "a ![x](https://h/x.png)![y](ftp://h/y.png)" }

/-- Saving it, with a mapping that sets nothing. -/
def saveTwoPictures : Act Unit Nat Saved :=
  run twoPictures .null [("f", ⟨.null, .null, .null, .null, .null⟩)] (.bool false) .null

/-- The text and one picture are sent, and the other picture is dropped. -/
theorem twoPictures_counted :
    ∃ saved, (carryOut saveTwoPictures headingsClipper headingsSession).1 = .ok saved ∧
      (saved.blockCount, saved.uploadedImages, saved.externalImages, saved.droppedBlocks) = (2, 0, 1, 1) ∧
      ∃ ms nodes, Session.Path headingsClipper headingsSession ms
          (carryOut saveTwoPictures headingsClipper headingsSession).2 ∧
        nodesOf twoPictures = .ok nodes ∧ (∀ n ∈ nodes, n.error? = none) ∧
        (Move.sentBlocks ms).length = 2 ∧ (Move.sentBlocks ms).countP Sweep.isExternal = 1 ∧
        (nodes.flatMap Page.Node.pictures).length = 2 := by
  have hrun : (match (carryOut saveTwoPictures headingsClipper headingsSession).1 with
      | .ok saved => decide ((saved.blockCount, saved.uploadedImages, saved.externalImages, saved.droppedBlocks) =
          (2, 0, 1, 1))
      | .error _ => false) = true := by decide +kernel
  split at hrun
  next saved hsaved =>
    have hcounts := of_decide_eq_true hrun
    simp only [Prod.mk.injEq] at hcounts
    obtain ⟨hblocks, huploaded, hexternal, hdropped⟩ := hcounts
    obtain ⟨ms, nodes, hp, hnodes, hcount, -, hsent, hall⟩ := run_counts twoPictures .null
      [("f", ⟨.null, .null, .null, .null, .null⟩)] (.bool false) .null headingsSession hsaved
    have hsound := error?_of_isSound (by decide +kernel) hnodes
    have hpictures := hall hsound
    rw [huploaded, hexternal, hdropped] at hpictures
    exact ⟨saved, hsaved, of_decide_eq_true hrun, ms, nodes, hp, hnodes, hsound, hcount ▸ hblocks, hsent ▸ hexternal,
      hpictures.symm⟩
  next => cases hrun

end Dropped

end Save

end WebClip
