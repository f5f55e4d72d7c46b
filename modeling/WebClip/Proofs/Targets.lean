import WebClip.Proofs.Reading
import WebClip.Proofs.Runs
/-!
# The targets of links

Read character by character, the runs of inline content are its leaves in order, each character
with the target of the innermost link around its leaf. The references of a target are decoded once
more on the way, so a link reaches the page as it is exactly when nothing in it reads as one.
-/

namespace WebClip.Page

open WebClip.Text WebClip.Markdown

/-! ## Targets -/

/-- The target that the text of a link gets from its URL: the URL with its references decoded,
unless that says something and is no link. -/
def target? (url : String) : Option String :=
  if url.isEmpty then none
  else if (Run.decoded url).isEmpty || isLink (Run.decoded url) then some (Run.decoded url) else none

theorem linkOf_eq (s : Span) : Run.linkOf s = s.link.bind target? := by
  unfold Run.linkOf
  cases s.link <;> rfl

theorem ne_empty_of_isLink {url : String} (h : isLink url = true) : url ≠ "" := by
  rintro rfl
  exact absurd h (by decide)

/-- A link is its own target exactly when decoding leaves it as it is. -/
theorem target?_eq_self_iff {url : String} (h : isLink url = true) :
    target? url = some url ↔ Run.decoded url = url := by
  have hne : url.isEmpty = false := by
    rw [Bool.eq_false_iff, ne_eq, String.isEmpty_iff]
    exact ne_empty_of_isLink h
  unfold target?
  rw [hne]
  constructor
  · intro ht
    simp only [Bool.false_eq_true, if_false] at ht
    split at ht
    · exact Option.some.inj ht
    · cases ht
  · intro hd
    rw [hd, h]
    simp

theorem decoded_of_no_ampersand {url : String} (h : '&' ∉ url.toList) : Run.decoded url = url := by
  rw [Run.decoded, Html.decode_of_no_ampersand h, String.ofList_toList]

/-! ## Leaves -/

/-- The formatting of the text of a leaf. -/
def leafMarks (around : List Wrapper) : Inline → Marks
  | .code _ => { Wrapper.marks around with code := true }
  | _ => Wrapper.marks around

/-- The text of a leaf read character by character, its references decoded. An image among text
is no text. -/
def styledLeaf (leaf : List Wrapper × Inline) : List Styled :=
  (Run.decoded (String.ofList (shown leaf.2))).toList.map fun c =>
    ⟨c, leafMarks leaf.1 leaf.2, (Wrapper.innermost leaf.1).bind target?⟩

@[simp] theorem styledSpans_append (a b : List Span) :
    Run.styledSpans (a ++ b) = Run.styledSpans a ++ Run.styledSpans b := by
  simp [Run.styledSpans, Run.styledAll]

/-- A span of text is read with its own formatting and the target of its link. -/
theorem styledSpans_text (text : String) (marks : Marks) (link : Option String) :
    Run.styledSpans [{ text, marks, link }] = (Run.decoded text).toList.map (⟨·, marks, link.bind target?⟩) := by
  by_cases hd : Run.decoded text = ""
  · simp [Run.styledSpans, Run.styledAll, Run.ofSpan?, Span.isImage, hd]
  · have hspan : Run.ofSpan? { text, marks, link } =
        some { content := Run.decoded text, marks, link := Run.linkOf { text, marks, link } } :=
      Run.ofSpan?_eq_some.2 ⟨rfl, hd, rfl⟩
    rw [Run.styledSpans, List.filterMap_cons, hspan, List.filterMap_nil, Run.styledAll, List.flatMap_singleton,
      Run.styled, linkOf_eq]

/-- What has no text is not read. -/
theorem styledLeaf_of_no_text {around : List Wrapper} {i : Inline} (h : shown i = []) :
    styledLeaf (around, i) = [] := by
  have hd : Run.decoded "" = "" := decoded_of_no_ampersand (by simp)
  rw [styledLeaf, h, String.ofList_nil, hd]
  rfl

/-- A leaf that becomes one span of text is read like it. -/
theorem styledSpans_leaf (around : List Wrapper) (i : Inline) (text : String) (h : shown i = text.toList) :
    Run.styledSpans [{ text, marks := leafMarks around i, link := Wrapper.innermost around }] =
      styledLeaf (around, i) := by
  rw [styledSpans_text, styledLeaf, h, String.ofList_toList]

/-- A leaf that becomes a span of text if it has any is read like its spans. -/
theorem styledSpans_leaf_if (around : List Wrapper) (i : Inline) (text : String) (h : shown i = text.toList) :
    Run.styledSpans (if text.isEmpty then [] else
        [{ text, marks := leafMarks around i, link := Wrapper.innermost around }]) = styledLeaf (around, i) := by
  split
  next hempty =>
    rw [styledLeaf_of_no_text (by rw [h, String.isEmpty_iff.1 hempty]; rfl)]
    rfl
  next => exact styledSpans_leaf around i text h

mutual

/-- The spans of a piece of inline content are read like its leaves. -/
theorem styledSpans_ofInline (around : List Wrapper) :
    ∀ i : Inline, Run.styledSpans (Span.ofInline (Wrapper.marks around) (Wrapper.innermost around) i) =
      (leaves around i).flatMap styledLeaf
  | .text raw => by
    rw [Span.ofInline, leaves, List.flatMap_singleton]
    exact styledSpans_leaf around (.text raw) raw rfl
  | .code raw => by
    rw [Span.ofInline, leaves, List.flatMap_singleton]
    exact styledSpans_leaf around (.code raw) raw rfl
  | .softBreak => by
    rw [Span.ofInline, leaves, List.flatMap_singleton]
    exact styledSpans_leaf around .softBreak " " rfl
  | .lineBreak => by
    rw [Span.ofInline, leaves, List.flatMap_singleton]
    exact styledSpans_leaf around .lineBreak "\n" rfl
  | .other raw => by
    rw [Span.ofInline, leaves, List.flatMap_singleton]
    exact styledSpans_leaf_if around (.other raw) raw rfl
  | .html raw => by
    rw [Span.ofInline, leaves, List.flatMap_singleton]
    exact styledSpans_leaf_if around (.html raw) (Span.shownText raw) rfl
  | .image none children => by
    rw [Span.ofInline, leaves, List.flatMap_singleton]
    exact styledSpans_leaf around (.image none children) _ (plainText_ofInlines {} none children).symm
  | .image (some url) children => by
    rw [Span.ofInline, leaves, List.flatMap_singleton, styledLeaf_of_no_text rfl]
    rfl
  | .strong children => styledSpans_ofInlines (.strong :: around) children
  | .emphasis children => styledSpans_ofInlines (.emphasis :: around) children
  | .strikethrough children => styledSpans_ofInlines (.strikethrough :: around) children
  | .group children => styledSpans_ofInlines around children
  | .link url children => by
    rw [Span.ofInline, leaves, ← innermost_cons_link]
    exact styledSpans_ofInlines (.link url :: around) children

theorem styledSpans_ofInlines (around : List Wrapper) :
    ∀ children : List Inline,
      Run.styledSpans (Span.ofInlines (Wrapper.marks around) (Wrapper.innermost around) children) =
        (leavesOf around children).flatMap styledLeaf
  | [] => rfl
  | i :: rest => by
    rw [Span.ofInlines, leavesOf, styledSpans_append, List.flatMap_append, styledSpans_ofInline around i,
      styledSpans_ofInlines around rest]

end

/-! ## Links -/

/-- Inline content read character by character, each with the wrappers around its leaf. -/
def sourced (content : List Inline) : List (List Wrapper × Styled) :=
  (leavesOf [] content).flatMap fun leaf => (styledLeaf leaf).map (leaf.1, ·)

theorem map_sourced (content : List Inline) :
    (sourced content).map Prod.snd = (leavesOf [] content).flatMap styledLeaf := by
  rw [sourced, List.map_flatMap]
  exact List.flatMap_congr fun leaf _ => by simp [Function.comp_def]

/-- What is read of inline content has the target of the innermost link around it. -/
theorem link_of_mem_sourced {content : List Inline} {p : List Wrapper × Styled} (h : p ∈ sourced content) :
    p.2.link = (Wrapper.innermost p.1).bind target? := by
  obtain ⟨leaf, -, hp⟩ := List.mem_flatMap.1 h
  obtain ⟨x, hx, rfl⟩ := List.mem_map.1 hp
  obtain ⟨c, -, rfl⟩ := List.mem_map.1 hx
  rfl

/-- The runs of inline content are read like its leaves in order, unless that is white space alone,
and what stands in a link and in none inside it carries the link unchanged exactly when decoding
leaves the link as it is, as it does when there is no ampersand in it. -/
theorem link_carried_iff (content : List Inline) :
    Run.styledAll (Run.ofSpans (Span.ofInlines {} none content)) =
        (if (sourced content).all fun p => isBlank p.2.char then [] else (sourced content).map Prod.snd) ∧
      ∀ p ∈ sourced content, ∀ url, Wrapper.innermost p.1 = some url → isLink url = true →
        (p.2.link = some url ↔ Run.decoded url = url) ∧ ('&' ∉ url.toList → p.2.link = some url) := by
  constructor
  · have hread : Run.styledSpans (Span.ofInlines {} none content) = (sourced content).map Prod.snd := by
      rw [map_sourced]
      exact styledSpans_ofInlines [] content
    rw [Run.styledAll_ofSpans, hread, List.all_map]
    rfl
  · intro p hp url hurl hlink
    have htarget : p.2.link = target? url := by rw [link_of_mem_sourced hp, hurl, Option.bind_some]
    rw [htarget, target?_eq_self_iff hlink]
    exact ⟨Iff.rfl, decoded_of_no_ampersand⟩

/-- The name of a parameter that is also the name of a character is taken for a reference, though
the URL is a link as it stands. -/
theorem parameter_decoded :
    isLink "https://e.com/?a=1&copy=2" = true ∧
      Run.ofSpans (Span.ofInlines {} none [.link (some "https://e.com/?a=1&copy=2") [.text "x"]]) =
        [{ content := "x", link := some "https://e.com/?a=1©=2" }] := by
  decide +kernel

end WebClip.Page
