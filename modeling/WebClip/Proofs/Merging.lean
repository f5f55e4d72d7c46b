import WebClip.Page.Compile
import WebClip.Proofs.Runs
/-!
# The fewest runs

Spans that look the same become one run as far as the limit allows. So two neighbours look the
same only where the first of them is full, and no other runs within the limit that read the same
are fewer. What is read from the runs is what the spans say, every character in its formatting
and with its link, except that a target that decodes to nothing stays as an empty link.
-/

namespace WebClip.Page

open WebClip.Text

/-! ## What spans say -/

namespace Span

/-- The link that the text of a span is to have: its target decoded, if that is a link. -/
def validLink? (s : Span) : Option String := (s.link.map Run.decoded).filter (isLink ·)

/-- What a span says, character by character; an image says nothing. -/
def said (s : Span) : List Styled :=
  if s.isImage then [] else (Run.decoded s.text).toList.map fun c => ⟨c, s.marks, s.validLink?⟩

/-- Whether the references that count for the runs of a span can be read. Those of its target
count only where it shows text. -/
def Readable (s : Span) : Prop :=
  s.isImage = true ∨ Html.oversized? s.text.toList = none ∧
    (Run.decoded s.text = "" ∨ ∀ url, s.link = some url → Html.oversized? url.toList = none)

end Span

namespace Styled

/-- A character as the record of its run shows it, where an empty link is none. -/
def recorded (x : Styled) : Styled := { x with link := x.link.filter (!·.isEmpty) }

/-- A text, unless it is white space alone. -/
def visible (text : List Styled) : List Styled := if text.all fun x => isBlank x.char then [] else text

end Styled

namespace Run

/-- Runs that may stand side by side: they look different, or the first one is full. -/
def Parted (a b : Run) : Prop := a.marks = b.marks → a.link = b.link → a.content.length = 2000

/-- Runs within the limit, none of them empty, and no more of them than it takes. -/
structure Compact (runs : List Run) : Prop where
  lengths : ∀ r ∈ runs, 1 ≤ r.content.length ∧ r.content.length ≤ 2000
  parted : runs.IsChain Parted
  fewest : ∀ others : List Run, (∀ r ∈ others, r.content.length ≤ 2000) → styledAll others = styledAll runs →
    runs.length ≤ others.length

/-! ## Neighbours -/

/-- Runs that look the same. -/
def Alike (a b : Run) : Prop := a.marks = b.marks ∧ a.link = b.link

theorem isChain_push {r : Run} {runs : List Run} (h : runs.IsChain fun a b => ¬ Alike a b) :
    (push r runs).IsChain fun a b => ¬ Alike a b := by
  cases runs with
  | nil => exact .singleton r
  | cons next rest =>
    by_cases hsame : next.marks = r.marks ∧ next.link = r.link
    · -- the joined run looks like the one it swallows, so it differs from what follows
      have hpush : push r (next :: rest) = { r with content := r.content ++ next.content } :: rest := by
        simp [push, hsame.1, hsame.2]
      rw [hpush]
      refine h.tail.cons fun b hb => ?_
      have hnext := h.rel_head? hb
      rintro ⟨hmarks, hlink⟩
      exact hnext ⟨hsame.1.trans hmarks, hsame.2.trans hlink⟩
    · have hpush : push r (next :: rest) = r :: next :: rest := by
        have hb : (decide (next.marks = r.marks) && decide (next.link = r.link)) = false := by
          simpa using hsame
        simp [push, hb]
      rw [hpush]
      refine h.cons_cons ?_
      rintro ⟨hmarks, hlink⟩
      exact hsame ⟨hmarks.symm, hlink.symm⟩

/-- Joined runs differ from their neighbours. -/
theorem isChain_join (runs : List Run) : (join runs).IsChain fun a b => ¬ Alike a b := by
  induction runs with
  | nil => exact .nil
  | cons r rest ih => exact isChain_push ih

/-- A piece of a run that another piece follows is full. -/
theorem isChain_cut (r : Run) : (cut r).IsChain Parted := by
  have hfull : (cutText maxTextLength r.content).IsChain fun part _ => part.length = 2000 :=
    isChain_cutText (by decide) r.content
  rw [cut, List.isChain_map]
  exact hfull.imp fun a b hlen _ _ => hlen

theorem cut_ne_nil {r : Run} (h : 0 < r.content.length) : cut r ≠ [] := by
  intro hnil
  obtain ⟨x, xs, hx⟩ := exists_styled_cons h
  have hread := styledAll_cut r
  rw [hnil, hx] at hread
  cases hread

theorem length_pos_of_mem_push {r : Run} {runs : List Run} (hr : 0 < r.content.length)
    (h : ∀ x ∈ runs, 0 < x.content.length) : ∀ x ∈ push r runs, 0 < x.content.length := by
  cases runs with
  | nil => simpa [push] using hr
  | cons next rest =>
    obtain ⟨hnext, hrest⟩ := List.forall_mem_cons.1 h
    rw [push]
    split
    · refine List.forall_mem_cons.2 ⟨?_, hrest⟩
      rw [String.length_append]
      omega
    · exact List.forall_mem_cons.2 ⟨hr, h⟩

theorem length_pos_of_mem_join {runs : List Run} (h : ∀ r ∈ runs, 0 < r.content.length) :
    ∀ r ∈ join runs, 0 < r.content.length := by
  induction runs with
  | nil => simp [join]
  | cons r rest ih =>
    obtain ⟨hr, hrest⟩ := List.forall_mem_cons.1 h
    exact length_pos_of_mem_push hr (ih hrest)

/-- Runs that differ from their neighbours, each cut at the limit: whatever still stands side by
side may do so. -/
theorem isChain_flatMap_cut {runs : List Run} (hpos : ∀ r ∈ runs, 0 < r.content.length)
    (h : runs.IsChain fun a b => ¬ Alike a b) : (runs.flatMap cut).IsChain Parted := by
  have hne : [] ∉ runs.map cut := by
    intro hmem
    obtain ⟨r, hr, hnil⟩ := List.mem_map.1 hmem
    exact cut_ne_nil (hpos r hr) hnil
  rw [List.flatMap_def, List.isChain_flatten hne, List.isChain_map]
  constructor
  · intro pieces hpieces
    obtain ⟨r, -, rfl⟩ := List.mem_map.1 hpieces
    exact isChain_cut r
  · -- pieces of different runs look like the runs they come from
    refine h.imp fun a b hdiffer x hx y hy hmarks hlink => ?_
    obtain ⟨-, -, hxm, hxl⟩ := of_mem_cut (List.mem_of_getLast? hx)
    obtain ⟨-, -, hym, hyl⟩ := of_mem_cut (List.mem_of_mem_head? hy)
    exact absurd ⟨hxm.symm.trans (hmarks.trans hym), hxl.symm.trans (hlink.trans hyl)⟩ hdiffer

theorem isChain_ofSpans (spans : List Span) : (ofSpans spans).IsChain Parted := by
  unfold ofSpans
  simp only
  split
  · exact .nil
  · exact isChain_flatMap_cut (length_pos_of_mem_join length_pos_of_ofSpan?) (isChain_join _)

/-! ## No fewer runs -/

/-- A run within the limit that holds all of the first of parted runs holds nothing of those behind it. -/
theorem eq_nil_of_styled_eq {o r : Run} {rest : List Run} {before behind left : List Styled}
    (hpos : ∀ x ∈ r :: rest, 0 < x.content.length) (hparted : (r :: rest).IsChain Parted)
    (hlimit : o.content.length ≤ 2000) (ho : o.styled = before ++ (r.styled ++ behind))
    (hrest : styledAll rest = behind ++ left) : behind = [] := by
  obtain ⟨hr, hrestpos⟩ := List.forall_mem_cons.1 hpos
  cases behind with
  | nil => rfl
  | cons x xs =>
    exfalso
    -- the run would hold the first character of the next run too, so both look like it
    cases rest with
    | nil => cases hrest
    | cons next tail =>
      obtain ⟨c, cs, hc⟩ := exists_styled_cons (hrestpos next List.mem_cons_self)
      obtain ⟨y, ys, hy⟩ := exists_styled_cons hr
      rw [styledAll_cons, hc] at hrest
      obtain ⟨rfl, -⟩ := List.cons.inj hrest
      have hyo := of_mem_styled (r := o) (x := y) (by rw [ho, hy]; simp)
      have hco := of_mem_styled (r := o) (x := c) (by rw [ho]; simp)
      have hyr := of_mem_styled (r := r) (x := y) (by rw [hy]; simp)
      have hcn := of_mem_styled (r := next) (x := c) (by rw [hc]; simp)
      have hfull : r.content.length = 2000 :=
        hparted.rel (hyr.1.symm.trans (hyo.1.trans (hco.1.symm.trans hcn.1)))
          (hyr.2.symm.trans (hyo.2.trans (hco.2.symm.trans hcn.2)))
      have hlen := congrArg List.length ho
      simp only [List.length_append, List.length_cons, length_styled] at hlen
      omega

/-- Runs within the limit that read like parted runs, or have those at their end, are as many at
least. -/
theorem length_le_of_styledAll {runs others : List Run} (hpos : ∀ r ∈ runs, 0 < r.content.length)
    (hparted : runs.IsChain Parted) (hlimit : ∀ r ∈ others, r.content.length ≤ 2000) {before : List Styled}
    (h : styledAll others = before ++ styledAll runs) : runs.length ≤ others.length := by
  -- each of the others is passed by one of the runs at most
  induction others generalizing runs before with
  | nil =>
    cases runs with
    | nil => exact Nat.le_refl 0
    | cons r rest =>
      have hlen := congrArg List.length h
      have hr := hpos r List.mem_cons_self
      simp only [styledAll_cons, List.length_append, length_styled] at hlen
      simp only [styledAll, List.flatMap_nil, List.length_nil] at hlen
      omega
  | cons o others ih =>
    obtain ⟨ho, hothers⟩ := List.forall_mem_cons.1 hlimit
    cases runs with
    | nil => exact Nat.zero_le _
    | cons r rest =>
      have hrestpos := (List.forall_mem_cons.1 hpos).2
      have hstep {behind : List Styled} (hb : styledAll others = behind ++ styledAll rest) :
          (r :: rest).length ≤ (o :: others).length :=
        Nat.succ_le_succ (ih hrestpos hparted.tail hothers hb)
      rw [styledAll_cons] at h
      rcases List.append_eq_append_iff.1 h with ⟨skipped, -, hskip⟩ | ⟨held, hheld, hread⟩
      · -- it ends before the first run begins
        exact Nat.le_succ_of_le (ih hpos hparted hothers hskip)
      · rw [styledAll_cons] at hread
        rcases List.append_eq_append_iff.1 hread with ⟨behind, rfl, hrest⟩ | ⟨part, -, hpart⟩
        · obtain rfl := eq_nil_of_styled_eq hpos hparted ho hheld hrest
          have hsame : styledAll others = [] ++ styledAll rest := hrest.symm
          exact hstep hsame
        · exact hstep hpart

/-! ## Links -/

/-- The link of a run is the one it is to have, once an empty one counts as none. -/
theorem filter_linkOf (s : Span) : (linkOf s).filter (!·.isEmpty) = s.validLink? := by
  have hempty : isLink "" = false := by decide
  unfold linkOf Span.validLink?
  cases s.link with
  | none => rfl
  | some url =>
    by_cases hu : url = ""
    · subst hu
      have hd : decoded "" = "" := by decide
      simp [hd, hempty, Option.filter]
    · by_cases hd : decoded url = ""
      · simp [hu, hd, hempty, Option.filter]
      · cases hl : isLink (decoded url) <;> simp [hu, hd, hl, Option.filter]

theorem linkOf_eq_validLink?_iff (s : Span) :
    linkOf s = s.validLink? ↔ ¬ ∃ url, s.link = some url ∧ url ≠ "" ∧ decoded url = "" := by
  rw [← linkOf_eq_empty, ← filter_linkOf]
  cases linkOf s with
  | none => simp
  | some url => by_cases hu : url = "" <;> simp [hu, Option.filter]

/-! ## Readings -/

/-- What is read from a span: what it says, with the link its run has. -/
theorem styledSpans_cons (s : Span) (rest : List Span) :
    styledSpans (s :: rest) = s.said.map (fun x => { x with link := linkOf s }) ++ styledSpans rest := by
  unfold styledSpans Span.said
  rw [List.filterMap_cons]
  cases hr : ofSpan? s with
  | none =>
    have hnone : s.isImage = true ∨ decoded s.text = "" := by
      by_contra hshown
      rw [not_or, Bool.not_eq_true] at hshown
      rw [ofSpan?_eq_some.2 ⟨hshown.1, hshown.2, rfl⟩] at hr
      cases hr
    rcases hnone with hi | ht
    · simp [hi]
    · simp [ht]
  | some r =>
    obtain ⟨hi, -, rfl⟩ := ofSpan?_eq_some.1 hr
    simp [styledAll_cons, styled, hi, Function.comp_def]

/-- Spans are read as the record of their runs shows them. -/
theorem recorded_styledSpans (spans : List Span) :
    (styledSpans spans).map Styled.recorded = spans.flatMap Span.said := by
  induction spans with
  | nil => rfl
  | cons s rest ih =>
    rw [styledSpans_cons, List.map_append, ih, List.flatMap_cons, List.map_map]
    congr 1
    unfold Span.said
    split
    · rfl
    · simp [Styled.recorded, filter_linkOf]

/-- A span is read as it says unless it loses its link. -/
theorem said_relinked_iff (s : Span) :
    s.said.map (fun x => { x with link := linkOf s }) = s.said ↔ ¬ losesLink s := by
  rw [losesLink, not_and, not_and, ← linkOf_eq_validLink?_iff, Span.said]
  cases s.isImage
  · by_cases ht : decoded s.text = ""
    · simp [ht]
    · -- the first character it shows has its link
      obtain ⟨c, cs, hc⟩ := List.exists_cons_of_ne_nil (fun h => ht (String.toList_eq_nil_iff.1 h))
      constructor
      · intro h _ _
        simp only [Bool.false_eq_true, if_false, hc, List.map_cons, List.cons.injEq, Styled.mk.injEq, true_and] at h
        exact h.1
      · intro h
        simp [h rfl ht]
  · simp

/-- Spans are read as they say unless one of them loses its link. -/
theorem styledSpans_eq_iff (spans : List Span) :
    styledSpans spans = spans.flatMap Span.said ↔ ∀ s ∈ spans, ¬ losesLink s := by
  induction spans with
  | nil => simp [styledSpans, styledAll]
  | cons s rest ih =>
    have hlen : (s.said.map fun x => { x with link := linkOf s }).length = s.said.length := List.length_map _
    rw [styledSpans_cons, List.flatMap_cons, List.forall_mem_cons, ← ih, ← said_relinked_iff]
    constructor
    · intro h
      exact List.append_inj h hlen
    · rintro ⟨hs, hrest⟩
      rw [hs, hrest]

/-- The runs of spans can be made exactly when every reference that counts can be read. -/
theorem spansError?_eq_none_iff (spans : List Span) :
    Node.spansError? (some spans) = none ↔ ∀ s ∈ spans, s.Readable := by
  rw [Node.spansError?, Option.map_eq_none_iff, oversized?, List.findSome?_eq_none_iff]
  refine forall₂_congr fun s _ => ?_
  unfold Span.Readable
  cases s.isImage
  · cases Html.oversized? s.text.toList with
    | some digits => simp
    | none => by_cases ht : decoded s.text = "" <;> simp [ht, Option.bind_eq_none_iff]
  · simp

/-- The runs of spans are as few as can be, none of them empty or beyond the limit, and as their
records show them they say what the spans say. They do so to the letter exactly where no text
has a target that decodes to nothing. -/
theorem ofSpans_says (spans : List Span) :
    (Node.spansError? (some spans) = none ↔ ∀ s ∈ spans, s.Readable) ∧
      Compact (ofSpans spans) ∧
      (styledAll (ofSpans spans)).map Styled.recorded = Styled.visible (spans.flatMap Span.said) ∧
      (styledAll (ofSpans spans) = Styled.visible (spans.flatMap Span.said) ↔
        (∃ x ∈ spans.flatMap Span.said, isBlank x.char = false) → ∀ s ∈ spans, ¬ losesLink s) := by
  -- whether anything is visible does not depend on links
  have hblank : (styledSpans spans).all (fun x => isBlank x.char) = (spans.flatMap Span.said).all fun x => isBlank x.char := by
    rw [← recorded_styledSpans, List.all_map]
    rfl
  have hread : styledAll (ofSpans spans) = Styled.visible (styledSpans spans) := styledAll_ofSpans spans
  refine ⟨spansError?_eq_none_iff spans, ⟨fun r hr => length_of_mem_ofSpans hr, isChain_ofSpans spans, ?_⟩, ?_, ?_⟩
  · intro others hothers hsame
    have hpos : ∀ r ∈ ofSpans spans, 0 < r.content.length := fun r hr => (length_of_mem_ofSpans hr).1
    have hread : styledAll others = [] ++ styledAll (ofSpans spans) := hsame
    exact length_le_of_styledAll hpos (isChain_ofSpans spans) hothers hread
  · rw [hread, Styled.visible, Styled.visible, hblank, ← recorded_styledSpans]
    split <;> rfl
  · rw [hread, Styled.visible, Styled.visible, hblank, ← styledSpans_eq_iff]
    split
    next h =>
      refine iff_of_true rfl ?_
      rintro ⟨x, hx, hb⟩
      rw [List.all_eq_true.1 h x hx] at hb
      cases hb
    next h =>
      rw [Bool.not_eq_true, List.all_eq_false] at h
      obtain ⟨x, hx, hb⟩ := h
      exact ⟨fun heq _ => heq, fun heq => heq ⟨x, hx, Bool.not_eq_true _ ▸ hb⟩⟩

/-- A target that decodes to nothing stays as an empty link, and keeps its text from joining its
neighbour. -/
theorem emptied_link_parts :
    ofSpans [{ text := "a", link := some "&#1;" }, .plain "b"] =
        [{ content := "a", link := some "" }, { content := "b" }] ∧
      styledAll (ofSpans [{ text := "a", link := some "&#1;" }, .plain "b"]) ≠
        Styled.visible ([{ text := "a", link := some "&#1;" }, .plain "b"].flatMap Span.said) ∧
      styledAll [{ content := "ab" }] =
        Styled.visible ([{ text := "a", link := some "&#1;" }, .plain "b"].flatMap Span.said) := by
  decide +kernel

end Run

end WebClip.Page
