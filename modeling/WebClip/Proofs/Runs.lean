import Mathlib.Data.List.Basic
import WebClip.Page.Run
import WebClip.Proofs.Chunks
/-!
# What runs say

A run is read character by character, each with the formatting and the link it is shown
in. Joining neighbours and cutting at the limit change the runs but not this reading, so
what holds of the single spans carries over to the runs made from them.
-/

namespace WebClip.Page

open WebClip.Text

/-- A character with the formatting and the link it is shown in. -/
structure Styled where
  char : Char
  marks : Marks
  link : Option String
  deriving DecidableEq

namespace Run

/-- A run read character by character. -/
def styled (r : Run) : List Styled := r.content.toList.map fun c => ⟨c, r.marks, r.link⟩

/-- Runs read character by character. -/
def styledAll (runs : List Run) : List Styled := runs.flatMap styled

/-- Spans read character by character, their references decoded. -/
def styledSpans (spans : List Span) : List Styled := styledAll (spans.filterMap ofSpan?)

theorem styledAll_cons (r : Run) (rest : List Run) : styledAll (r :: rest) = r.styled ++ styledAll rest :=
  List.flatMap_cons

theorem length_styled (r : Run) : r.styled.length = r.content.length := by
  rw [styled, List.length_map, String.length_toList]

/-- What is read from a run looks like it. -/
theorem of_mem_styled {r : Run} {x : Styled} (h : x ∈ r.styled) : x.marks = r.marks ∧ x.link = r.link := by
  obtain ⟨c, -, rfl⟩ := List.mem_map.1 h
  exact ⟨rfl, rfl⟩

theorem exists_styled_cons {r : Run} (h : 0 < r.content.length) : ∃ x xs, r.styled = x :: xs := by
  refine List.exists_cons_of_ne_nil fun hnil => ?_
  have hlen := length_styled r
  rw [hnil, List.length_nil] at hlen
  omega

/-! ## Joining and cutting keep the reading -/

theorem styledAll_push (r : Run) (runs : List Run) :
    styledAll (push r runs) = r.styled ++ styledAll runs := by
  cases runs with
  | nil => simp [push, styledAll]
  | cons next rest =>
    by_cases h : next.marks = r.marks ∧ next.link = r.link
    · simp [push, styledAll, styled, String.toList_append, h.1, h.2]
    · have hb : (decide (next.marks = r.marks) && decide (next.link = r.link)) = false := by
        simpa using h
      simp [push, styledAll, hb]

theorem styledAll_join (runs : List Run) : styledAll (join runs) = styledAll runs := by
  induction runs with
  | nil => rfl
  | cons r rest ih =>
    rw [show join (r :: rest) = push r (join rest) from rfl, styledAll_push, ih]
    rfl

theorem styledAll_cut (r : Run) : styledAll (cut r) = r.styled := by
  rw [styledAll, cut, List.flatMap_map]
  unfold styled
  rw [← flatMap_cutText maxTextLength r.content, List.map_flatMap]

theorem styledAll_flatMap_cut (runs : List Run) : styledAll (runs.flatMap cut) = styledAll runs := by
  rw [styledAll, List.flatMap_assoc]
  exact List.flatMap_congr fun r _ => styledAll_cut r

theorem blank_iff_styled (runs : List Run) :
    (runs.all fun r => blank r.content) = (styledAll runs).all fun x => isBlank x.char := by
  rw [styledAll, List.all_flatMap]
  congr 1
  funext r
  rw [styled, List.all_map]
  rfl

/-- The runs of spans read like the spans; white space alone has no runs. -/
theorem styledAll_ofSpans (spans : List Span) :
    styledAll (ofSpans spans) =
      if (styledSpans spans).all fun x => isBlank x.char then [] else styledSpans spans := by
  unfold ofSpans
  simp only [blank_iff_styled, styledAll_join]
  split
  · rename_i h
    rw [if_pos (by exact h)]
    rfl
  · rename_i h
    rw [if_neg (by exact h), styledAll_flatMap_cut, styledAll_join]
    rfl

/-! ## Single runs -/

/-- A piece of a run that was cut has a character, no more than the limit, and looks the same. -/
theorem of_mem_cut {r piece : Run} (h : piece ∈ cut r) :
    0 < piece.content.length ∧ piece.content.length ≤ maxTextLength ∧ piece.marks = r.marks ∧
      piece.link = r.link := by
  obtain ⟨part, hpart, rfl⟩ := List.mem_map.1 h
  obtain ⟨hpos, hle⟩ := length_of_mem_cutText (by decide) hpart
  exact ⟨hpos, hle, rfl, rfl⟩

theorem length_of_mem_ofSpans {spans : List Span} {r : Run} (h : r ∈ ofSpans spans) :
    0 < r.content.length ∧ r.content.length ≤ maxTextLength := by
  unfold ofSpans at h
  simp only at h
  split at h
  · cases h
  · obtain ⟨whole, -, hr⟩ := List.mem_flatMap.1 h
    exact ⟨(of_mem_cut hr).1, (of_mem_cut hr).2.1⟩

/-- A run with a character lends its link to what is read from it. -/
theorem exists_link_iff {runs : List Run} (hpos : ∀ r ∈ runs, 0 < r.content.length) (link : Option String) :
    (∃ r ∈ runs, r.link = link) ↔ ∃ x ∈ styledAll runs, x.link = link := by
  constructor
  · rintro ⟨r, hr, rfl⟩
    -- the first character of the run shows its link
    obtain ⟨x, xs, hx⟩ := exists_styled_cons (hpos r hr)
    have hmem : x ∈ r.styled := by simp [hx]
    exact ⟨x, List.mem_flatMap.2 ⟨r, hr, hmem⟩, (of_mem_styled hmem).2⟩
  · rintro ⟨x, hx, rfl⟩
    obtain ⟨r, hr, hxr⟩ := List.mem_flatMap.1 hx
    obtain ⟨c, -, rfl⟩ := List.mem_map.1 hxr
    exact ⟨r, hr, rfl⟩

/-! ## Plain texts -/

/-- The text of runs is what is read from them. -/
theorem text_eq_styledAll (runs : List Run) : text runs = String.ofList ((styledAll runs).map (·.char)) := by
  rw [text, styledAll, List.map_flatMap]
  congr 1
  refine List.flatMap_congr fun r _ => ?_
  rw [styled, List.map_map]
  exact (List.map_id' _).symm

theorem text_ofText (s : String) : text (ofText s) = s := by
  have h : (cut { content := s }).flatMap (·.content.toList) = s.toList := by
    rw [cut, List.flatMap_map]
    exact flatMap_cutText maxTextLength s
  rw [text, ofText, h, String.ofList_toList]

theorem of_mem_ofText {s : String} {r : Run} (h : r ∈ ofText s) :
    0 < r.content.length ∧ r.content.length ≤ maxTextLength ∧ r.marks = {} ∧ r.link = none :=
  of_mem_cut h

/-! ## Links -/

/-- Whether a span is text with a target that says nothing once its references are decoded. -/
def losesLink (s : Span) : Prop :=
  s.isImage = false ∧ decoded s.text ≠ "" ∧ ∃ url, s.link = some url ∧ url ≠ "" ∧ decoded url = ""

theorem linkOf_eq_some {s : Span} {url : String} (h : linkOf s = some url) : url = "" ∨ isLink url = true := by
  unfold linkOf at h
  split at h
  · cases h
  · split at h
    · cases h
    · simp only at h
      split at h
      · rename_i hd
        rw [Bool.or_eq_true, String.isEmpty_iff] at hd
        rw [← Option.some.inj h]
        exact hd
      · cases h

theorem linkOf_eq_empty {s : Span} : linkOf s = some "" ↔ ∃ url, s.link = some url ∧ url ≠ "" ∧ decoded url = "" := by
  unfold linkOf
  cases s.link with
  | none => simp
  | some url =>
    by_cases hu : url.isEmpty = true
    · simp_all
    · by_cases hd : decoded url = "" <;> simp_all

theorem ofSpan?_eq_some {s : Span} {r : Run} :
    ofSpan? s = some r ↔ s.isImage = false ∧ decoded s.text ≠ "" ∧
      r = { content := decoded s.text, marks := s.marks, link := linkOf s } := by
  unfold ofSpan?
  cases s.isImage
  · by_cases hd : decoded s.text = ""
    · simp [hd]
    · simp only [Bool.false_eq_true, if_false, String.isEmpty_iff, hd, Option.some.injEq, ne_eq,
        not_false_eq_true, true_and]
      exact eq_comm
  · simp

theorem length_pos_of_ofSpan? {spans : List Span} : ∀ r ∈ spans.filterMap ofSpan?, 0 < r.content.length := by
  intro r hr
  obtain ⟨s, -, hs⟩ := List.mem_filterMap.1 hr
  obtain ⟨-, hne, rfl⟩ := ofSpan?_eq_some.1 hs
  exact Nat.pos_of_ne_zero fun h => hne (String.length_eq_zero_iff.1 h)

/-- What is read from spans has the link of a span that shows text. -/
theorem exists_styledSpans_link {spans : List Span} {link : Option String} :
    (∃ x ∈ styledSpans spans, x.link = link) ↔
      ∃ s ∈ spans, s.isImage = false ∧ decoded s.text ≠ "" ∧ linkOf s = link := by
  rw [styledSpans, ← exists_link_iff length_pos_of_ofSpan?]
  constructor
  · rintro ⟨r, hr, rfl⟩
    obtain ⟨s, hs, hsr⟩ := List.mem_filterMap.1 hr
    obtain ⟨hi, hne, rfl⟩ := ofSpan?_eq_some.1 hsr
    exact ⟨s, hs, hi, hne, rfl⟩
  · rintro ⟨s, hs, hi, hne, rfl⟩
    exact ⟨_, List.mem_filterMap.2 ⟨s, hs, ofSpan?_eq_some.2 ⟨hi, hne, rfl⟩⟩, rfl⟩

theorem link_of_mem_ofSpans {spans : List Span} {r : Run} (h : r ∈ ofSpans spans) {url : String}
    (hl : r.link = some url) : url = "" ∨ isLink url = true := by
  obtain ⟨x, hx, hxl⟩ := (exists_link_iff (fun r hr => (length_of_mem_ofSpans hr).1) (some url)).1 ⟨r, h, hl⟩
  rw [styledAll_ofSpans] at hx
  split at hx
  · cases hx
  · obtain ⟨s, -, -, -, hs⟩ := exists_styledSpans_link.1 ⟨x, hx, hxl⟩
    exact linkOf_eq_some hs

/-- Something visible is read from spans when one of them shows it. -/
theorem exists_visible_iff {spans : List Span} :
    (∃ x ∈ styledSpans spans, isBlank x.char = false) ↔
      ∃ s ∈ spans, s.isImage = false ∧ blank (decoded s.text) = false := by
  have hne (s : String) : blank s = false ↔ ∃ c ∈ s.toList, isBlank c = false := by
    simp [blank, List.all_eq_false]
  constructor
  · rintro ⟨x, hx, hb⟩
    obtain ⟨r, hr, hxr⟩ := List.mem_flatMap.1 hx
    obtain ⟨s, hs, hsr⟩ := List.mem_filterMap.1 hr
    obtain ⟨hi, -, rfl⟩ := ofSpan?_eq_some.1 hsr
    obtain ⟨c, hc, rfl⟩ := List.mem_map.1 hxr
    exact ⟨s, hs, hi, (hne _).2 ⟨c, hc, hb⟩⟩
  · rintro ⟨s, hs, hi, hb⟩
    obtain ⟨c, hc, hb⟩ := (hne _).1 hb
    have hd : decoded s.text ≠ "" := by
      intro h
      rw [h] at hc
      cases hc
    have hspan : ofSpan? s = some { content := decoded s.text, marks := s.marks, link := linkOf s } :=
      ofSpan?_eq_some.2 ⟨hi, hd, rfl⟩
    refine ⟨⟨c, s.marks, linkOf s⟩, ?_, hb⟩
    exact List.mem_flatMap.2 ⟨_, List.mem_filterMap.2 ⟨s, hs, hspan⟩, List.mem_map.2 ⟨c, hc, rfl⟩⟩

/-- Some run keeps an empty target exactly when the spans say something and one of them
loses its link. -/
theorem empty_link_iff {spans : List Span} :
    (∃ r ∈ ofSpans spans, r.link = some "") ↔
      (∃ s ∈ spans, s.isImage = false ∧ blank (decoded s.text) = false) ∧ ∃ s ∈ spans, losesLink s := by
  rw [exists_link_iff fun r hr => (length_of_mem_ofSpans hr).1, styledAll_ofSpans, ← exists_visible_iff]
  split
  · -- white space alone has no runs, and nothing in it is visible
    rename_i h
    simp only [List.all_eq_true] at h
    constructor
    · rintro ⟨x, hx, -⟩
      cases hx
    · rintro ⟨⟨x, hx, hb⟩, -⟩
      rw [h x hx] at hb
      cases hb
  · rename_i h
    simp only [List.all_eq_true, Classical.not_forall, Bool.not_eq_true] at h
    obtain ⟨x, hx, hb⟩ := h
    rw [exists_styledSpans_link]
    simp only [losesLink, linkOf_eq_empty]
    constructor
    · intro hs
      exact ⟨⟨x, hx, hb⟩, hs⟩
    · intro hs
      exact hs.2

end Run

end WebClip.Page
