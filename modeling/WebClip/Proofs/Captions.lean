import WebClip.Proofs.Composing
import WebClip.Proofs.Fields
import WebClip.Proofs.Placement
/-!
# Captions

An image that stands alone without a description is shown with what the article knows of it. Every
other picture, those among text included, is shown with the description that it comes with, also
where that is empty.
-/

namespace WebClip

open Act

/-- Results that are there together are there one by one. -/
theorem forall₂_of_mapM {α β : Type} {f : α → Except Fault β} {xs : List α} {ys : List β} (h : xs.mapM f = .ok ys) :
    List.Forall₂ (fun x y => f x = .ok y) xs ys := by
  induction xs generalizing ys with
  | nil =>
    cases h
    exact .nil
  | cons x xs ih =>
    rw [List.mapM_cons] at h
    obtain ⟨y, hx, h⟩ := exists_of_bind h
    obtain ⟨zs, hxs, ⟨⟩⟩ := exists_of_bind h
    exact .cons hx (ih hxs)

/-- Whether the node is an image that stands alone. -/
def Page.Node.standsAlone : Page.Node → Bool
  | image .. => true
  | _ => false

namespace Save

/-! ## Descriptions -/

/-- The description that a picture of a node is shown with. -/
def caption (article : Article) (n : Page.Node) (p : Page.Picture) : String :=
  if n.standsAlone && p.alt.isEmpty then (article.altFor p.url).text?.getD "" else p.alt

/-- The pictures of a node as they are shown. -/
def captioned (article : Article) (n : Page.Node) : List Page.Picture :=
  n.pictures.map fun p => { p with alt := caption article n p }

variable {article : Article} {n d : Page.Node}

@[simp] theorem urls_captioned : (captioned article n).map Page.Picture.url = n.pictures.map Page.Picture.url := by
  simp [captioned, Function.comp_def]

@[simp] theorem length_captioned : (captioned article n).length = n.pictures.length := List.length_map _

theorem captioned_of_text (h : n.standsAlone = false) : captioned article n = n.pictures := by
  simp [captioned, caption, h]

/-- Describing a node gives its pictures their captions and leaves everything else as it is. -/
theorem describe_eq (h : describe article n = .ok d) : d.error? = n.error? ∧ d.pictures = captioned article n := by
  cases n with
  | image url alt =>
    by_cases halt : alt = ""
    · subst halt
      cases hfor : article.altFor url with
      | text known =>
        have hdescribed : describe article (.image url "") = .ok (.image url known) := by simp [describe, hfor]
        cases hdescribed.symm.trans h
        simp [captioned, caption, Page.Node.pictures, Page.Node.standsAlone, Page.Node.error?, hfor, Value.text?]
      | _ => simp [describe, hfor] at h
    · have hdescribed : describe article (.image url alt) = .ok (.image url alt) := by simp [describe, halt]
      cases hdescribed.symm.trans h
      simp [captioned, caption, Page.Node.pictures, halt]
  | _ =>
    cases h
    exact ⟨rfl, (captioned_of_text rfl).symm⟩

/-- The caption of an image that stands alone without a description is what the article knows of it. -/
theorem altFor_of_describe {p : Page.Picture} (h : describe article n = .ok d) (halone : n.standsAlone = true)
    (hp : p ∈ n.pictures) (halt : p.alt = "") : article.altFor p.url = .text (caption article n p) := by
  cases n with
  | image url alt =>
    obtain rfl := List.mem_singleton.1 hp
    obtain rfl : alt = "" := halt
    cases hfor : article.altFor url with
    | text known => simp [caption, Page.Node.standsAlone, hfor, Value.text?]
    | _ => simp [describe, hfor] at h
  | _ => cases halone

/-! ## The pictures of a page -/

namespace Composition

variable (k : Composition article)

/-- The pictures that the page is to show: those of the nodes that can be compiled. -/
def shown : List Page.Picture := (k.nodes.filter (·.error?.isNone)).flatMap (captioned article)

theorem describes : List.Forall₂ (fun n d => describe article n = .ok d) k.nodes k.described :=
  forall₂_of_mapM k.described_eq

theorem pictures_described :
    (k.described.filter (·.error?.isNone)).flatMap Page.Node.pictures = k.shown := by
  unfold shown
  have hall := k.describes
  generalize k.nodes = nodes at hall
  generalize k.described = described at hall
  induction hall with
  | nil => rfl
  | @cons n d nodes described hdescribe _ ih =>
    obtain ⟨herror, hpictures⟩ := describe_eq hdescribe
    cases he : n.error? with
    | none =>
      rw [List.filter_cons_of_pos (by simp [herror, he]), List.filter_cons_of_pos (by simp [he]), List.flatMap_cons,
        List.flatMap_cons, hpictures, ih]
    | some e => rw [List.filter_cons_of_neg (by simp [herror, he]), List.filter_cons_of_neg (by simp [he]), ih]

/-- The images of the page are the blocks of the pictures that it is to show. -/
theorem images_eq : k.compiled.blocks.filter Page.Block.isImage = k.shown.filterMap (Page.Picture.block? k.assets) := by
  rw [compiled, Page.compile, Page.images_compileFrom, pictures_described]

variable (hsound : ∀ n ∈ k.nodes, n.error? = none)

include hsound in
/-- Where every node can be compiled, every picture is to be shown. -/
theorem shown_of_sound : k.shown = k.nodes.flatMap (captioned article) := by
  rw [shown, List.filter_eq_self.2 fun n hn => by simp [hsound n hn]]

include hsound in
/-- A picture is dropped with a diagnostic or not at all. -/
theorem diagnostics_eq : k.compiled.diagnostics = k.shown.filterMap (Page.Picture.diagnostic? k.assets) := by
  have hdescribed : ∀ d ∈ k.described, d.error? = none := by
    intro d hd
    obtain ⟨n, hn, hdescribe⟩ := Mapping.mem_of_mapM k.described_eq hd
    rw [(describe_eq hdescribe).1, hsound n hn]
  rw [← pictures_described, List.filter_eq_self.2 fun d hd => by simp [hdescribed d hd]]
  exact (Page.compileFrom_eq hdescribed 0).2

end Composition

/-! ## The captions of a run -/

variable {σ τ : Type} [Clock τ] {c : Clipper σ τ}

/-- Making a page is not quiet. -/
theorem exists_created {ms : List Move} (h : Move.pages ms ≠ []) : ∃ page a, .asked (.createPage page) a ∈ ms := by
  obtain ⟨reply, hreply⟩ := List.exists_mem_of_ne_nil _ h
  obtain ⟨m, hm, hpage⟩ := List.mem_filterMap.1 hreply
  cases m with
  | asked r a =>
    cases r with
    | createPage page => exact ⟨page, a, hm⟩
    | _ => cases a <;> cases hpage
  | _ => cases hpage

/-- A run that has made a page has composed it. -/
theorem Ends.composes {database : Value} {given : Mapping} {upload : Bool} {s : Session σ τ} {ms : List Move}
    {r : Except Fault Saved} (h : Ends c article database given upload s ms r) (hp : Move.pages ms ≠ []) :
    ∃ k, Composes c article database given upload s ms r k := by
  rcases h with ⟨hquiet, -⟩ | h
  · obtain ⟨page, a, hm⟩ := exists_created hp
    exact (hquiet _ hm).elim
  · exact h

/-- In every run of a save that makes a page, the image blocks that are written are those of the pictures of the
nodes that can be compiled, in order, and the caption of each is the description of its picture: what the article knows
of an image that stands alone without one, and else the one that it comes with. So a picture that comes without a
description is shown with what the article knows of it exactly where it stands alone or the article knows nothing. -/
theorem run_captions (article : Article) (database : Value) (given : Mapping) (download limit : Value)
    (s : Session σ τ) :
    ∃ ms, Session.Path c s ms (carryOut (run article database given download limit) c s).2 ∧
      (Move.pages ms ≠ [] → ∃ k : Composition article,
        Settles c k.urls (wanted c.settings download).truthy s ms k.assets ∧
        (Move.blocks ms).Sublist (k.compiled.blocks.map Page.Block.toValue) ∧
        k.compiled.blocks.filter Page.Block.isImage = k.shown.filterMap (Page.Picture.block? k.assets) ∧
        (∀ p b, Page.Picture.block? k.assets p = some b → Page.Run.text b.runs = p.alt) ∧
        ∀ n ∈ k.nodes, ∀ p ∈ n.pictures, p.alt = "" →
          (article.altFor p.url = .text (caption article n p) ↔
            n.standsAlone = true ∨ article.altFor p.url = .text "")) := by
  obtain ⟨ms, hp, hends⟩ := run_ends (c := c) article database given download limit s
  refine ⟨ms, hp, fun hpages => ?_⟩
  obtain ⟨k, hk⟩ := hends.composes hpages
  refine ⟨k, hk.settles, (Move.blocks_sublist ms).trans hk.first.sublist, k.images_eq,
    fun p b hb => Page.caption_of_block? hb, fun n hn p hpic halt => ?_⟩
  obtain ⟨d, hdescribe⟩ := Mapping.mapM_isOk.1 ⟨_, k.described_eq⟩ n hn
  cases halone : n.standsAlone with
  | true => simpa using altFor_of_describe hdescribe halone hpic halt
  | false => simp [caption, halone, halt]

section Uncaptioned

/-- An article that knows what its only image shows, which stands among text and comes without a description. -/
def pictureInText : Article :=
  { content := .text "a ![](https://h/x.png)"
    images := [{ src := .text "https://h/x.png", alt := .text "pic" }] }

/-- The spans of its paragraph. -/
def pictureSpans : List Page.Span := [.plain "a ", { text := "", image := some "https://h/x.png" }]

/-- The captions of the images that a page is created with. -/
def captionsOf (page : Value) : List Value :=
  (Request.createPage page).carried.filterMap fun block => (block.field? "image").bind (·.field? "caption")

/-- Whether the pages created along these events have one image, and that without a caption. -/
def leavesUncaptioned (events : List Event) : Bool :=
  events.any fun
    | .asked (.createPage page) =>
      match captionsOf page with
      | [.list []] => true
      | _ => false
    | _ => false

/-- The image is shown without the description that the article knows. -/
theorem picture_uncaptioned :
    (match nodesOf pictureInText with
      | .ok [.paragraph (some spans)] => decide (spans = pictureSpans)
      | _ => false) = true ∧
      pictureInText.altFor "https://h/x.png" = .text "pic" ∧
      leavesUncaptioned (carryOut (run pictureInText .null [("f", ⟨.null, .null, .null, .null, .null⟩)] (.bool false) .null)
        headingsClipper headingsSession).2.events = true :=
  ⟨by decide +kernel, rfl, by decide +kernel⟩

end Uncaptioned

end Save

end WebClip
