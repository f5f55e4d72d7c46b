import Mathlib.Data.List.TakeWhile
import WebClip.Text.Blank
/-!
# Trimmed texts

What is left of a text without the white space around it starts with a visible character, and there is
something left unless the text is white space alone.
-/

namespace WebClip.Text

/-- The first character that is visible is also the first of the trimmed text. -/
theorem trim_eq_nil_or (cs : List Char) :
    cs.all isBlank = true ∧ trim cs = [] ∨ ∃ c rest, trim cs = c :: rest ∧ isBlank c = false := by
  cases hfront : cs.dropWhile isBlank with
  | nil =>
    refine .inl ⟨List.all_eq_true.2 (List.dropWhile_eq_nil_iff.1 hfront), ?_⟩
    rw [trim, trimWhile, hfront]
    rfl
  | cons c rest =>
    have hc := List.head?_dropWhile_not isBlank cs
    rw [hfront] at hc
    replace hc : isBlank c = false := by simpa using hc
    refine .inr ⟨c, dropEndWhile isBlank rest, ?_, hc⟩
    -- the end that is dropped does not reach the first character
    rw [trim, trimWhile, hfront, dropEndWhile, dropEndWhile, List.reverse_cons, List.dropWhile_append]
    split
    next hnone => simp [List.isEmpty_iff.1 hnone, hc]
    next => rw [List.reverse_append, List.reverse_singleton, List.singleton_append]

/-- A text is blank when nothing is left of it without the white space around it. -/
theorem blank_of_strip {s : String} (h : (strip s).isEmpty = true) : blank s = true := by
  rcases trim_eq_nil_or s.toList with ⟨hblank, -⟩ | ⟨c, rest, htrim, -⟩
  · exact hblank
  · simp [strip, htrim] at h

end WebClip.Text
