import WebClip.Proofs.CodeTexts
/-!
# Formatting from around

What stands around inline content reaches its spans from outside: content that is flattened within some formatting and
a link gives the spans that it gives by itself, each with that formatting added, and with the link where it has none of
its own. Content is flattened piece by piece, so that lists of it put together give their spans put together.
-/

namespace WebClip.Page

open WebClip.Markdown

theorem Marks.empty_union (marks : Marks) : union {} marks = marks := by
  simp [union]

namespace Span

/-- A span within formatting and a link. -/
def within (marks : Marks) (link : Option String) (s : Span) : Span :=
  { s with marks := s.marks.union marks, link := s.link.or link }

/-- The spans of inline content, or the fault of what nobody can read in it. -/
def flatten (marks : Marks) (link : Option String) (tokens : List Inline) : Except Fault (List Span) :=
  match readErrors? tokens with
  | some e => .error (readFault e)
  | none => .ok (ofInlines marks link tokens)

/-! ## From outside to inside -/

theorem innerLink_or (url outer link : Option String) : innerLink url (outer.or link) = (innerLink url outer).or link := by
  cases url with
  | none => rfl
  | some url =>
    rw [innerLink, innerLink]
    cases url.isEmpty <;> rfl

section
variable (marks : Marks) (link : Option String)

mutual

/-- Formatting and a link can be taken out of what stands around a piece of inline content and given to its spans. -/
theorem ofInline_union (inner : Marks) (outer : Option String) : ∀ i : Inline,
    ofInline (inner.union marks) (outer.or link) i = (ofInline inner outer i).map (within marks link)
  | .text _ | .code _ | .softBreak | .lineBreak | .image .. => rfl
  | .strong children => ofInlines_union { inner with bold := true } outer children
  | .emphasis children => ofInlines_union { inner with italic := true } outer children
  | .strikethrough children => ofInlines_union { inner with strikethrough := true } outer children
  | .group children => ofInlines_union inner outer children
  -- the link of the piece itself comes first, then the one around it, and last the one taken out
  | .link url children => by
    rw [ofInline, ofInline, innerLink_or]
    exact ofInlines_union inner (innerLink url outer) children
  | .html raw => by
    rw [ofInline, ofInline, apply_ite (List.map (within marks link))]
    rfl
  | .other raw => by
    rw [ofInline, ofInline, apply_ite (List.map (within marks link))]
    rfl

theorem ofInlines_union (inner : Marks) (outer : Option String) : ∀ tokens : List Inline,
    ofInlines (inner.union marks) (outer.or link) tokens = (ofInlines inner outer tokens).map (within marks link)
  | [] => rfl
  | i :: rest => by
    rw [ofInlines, ofInlines, List.map_append, ofInline_union inner outer i, ofInlines_union inner outer rest]

end

theorem ofInlines_within (tokens : List Inline) :
    ofInlines marks link tokens = (ofInlines {} none tokens).map (within marks link) := by
  have h := ofInlines_union marks link {} none tokens
  rwa [Marks.empty_union, Option.none_or] at h

end

/-! ## Piece by piece -/

theorem readErrors?_append (xs ys : List Inline) : readErrors? (xs ++ ys) = (readErrors? xs).or (readErrors? ys) := by
  induction xs with
  | nil => rfl
  | cons i rest ih => rw [List.cons_append, readErrors?, readErrors?, ih, Option.or_assoc]

/-- Inline content within formatting and a link gives the spans that it gives by itself, each of them within both, and
fails where it fails by itself. Flattening two lists put together is flattening one and then the other. -/
theorem flatten_within (marks : Marks) (link : Option String) :
    (∀ tokens : List Inline, flatten marks link tokens = (flatten {} none tokens).map (List.map (within marks link))) ∧
      ∀ xs ys : List Inline, flatten marks link (xs ++ ys) = (do
        let before ← flatten marks link xs
        let behind ← flatten marks link ys
        pure (before ++ behind)) := by
  refine ⟨fun tokens => ?_, fun xs ys => ?_⟩
  · unfold flatten
    cases readErrors? tokens with
    | some e => rfl
    | none => exact congrArg Except.ok (ofInlines_within marks link tokens)
  · unfold flatten
    rw [readErrors?_append, ofInlines_append]
    cases readErrors? xs with
    | some e => rfl
    | none => cases readErrors? ys <;> rfl

/-- A link inside keeps its URL within another, and text beside it takes the one around. -/
example : ofInlines { bold := true } (some "o") [.link (some "i") [.text "a"], .emphasis [.link (some "") [.text "b"]]] =
    [{ text := "a", marks := { bold := true }, link := some "i" },
      { text := "b", marks := { bold := true, italic := true }, link := some "o" }] := rfl

end Span

end WebClip.Page
