import Mathlib.Data.List.Chain
import WebClip.Chunk
/-!
# Chunks are a partition

Chunks put together again are the list that was cut, none is empty, none exceeds the limit
and only the last falls short of it. Texts inherit this character by character.
-/

namespace WebClip

variable {α : Type} {n : Nat} {xs c : List α}

theorem flatten_chunks (n : Nat) (xs : List α) : (chunks n xs).flatten = xs := by
  fun_induction chunks n xs with
  | case1 => rfl
  | case2 x rest ih => simp [ih]

theorem ne_nil_of_mem_chunks (h : c ∈ chunks n xs) : c ≠ [] := by
  fun_induction chunks n xs with
  | case1 => cases h
  | case2 x rest ih =>
    rcases List.mem_cons.1 h with rfl | h
    · exact List.cons_ne_nil _ _
    · exact ih h

theorem length_le_of_mem_chunks (hn : 0 < n) (h : c ∈ chunks n xs) : c.length ≤ n := by
  fun_induction chunks n xs with
  | case1 => cases h
  | case2 x rest ih =>
    rcases List.mem_cons.1 h with rfl | h
    · simp only [List.length_cons, List.length_take]; omega
    · exact ih h

/-- A chunk that another one follows is full. -/
theorem isChain_chunks (hn : 0 < n) (xs : List α) : (chunks n xs).IsChain fun c _ => c.length = n := by
  fun_induction chunks n xs with
  | case1 => exact .nil
  | case2 x rest ih =>
    refine ih.cons fun next hnext => ?_
    -- something is left for the next chunk only where this one has taken all it may
    have hleft : rest.drop (n - 1) ≠ [] := by
      intro h
      simp [h] at hnext
    have hlong : n - 1 < rest.length := by
      rwa [ne_eq, List.drop_eq_nil_iff, Nat.not_le] at hleft
    simp only [List.length_cons, List.length_take]
    omega

/-! ## Texts -/

theorem flatMap_cutText (n : Nat) (s : String) : (cutText n s).flatMap String.toList = s.toList := by
  rw [cutText, List.flatMap_map]
  simp only [String.toList_ofList, List.flatMap_id']
  exact flatten_chunks n s.toList

/-- A part of a text that another one follows is full. -/
theorem isChain_cutText (hn : 0 < n) (s : String) : (cutText n s).IsChain fun part _ => part.length = n := by
  rw [cutText, List.isChain_map]
  refine (isChain_chunks hn s.toList).imp fun a b hlen => ?_
  rw [String.length_ofList]
  exact hlen

/-- A part of a text has a character, and no more of them than the limit. -/
theorem length_of_mem_cutText (hn : 0 < n) {s part : String} (h : part ∈ cutText n s) :
    0 < part.length ∧ part.length ≤ n := by
  obtain ⟨cs, hcs, rfl⟩ := List.mem_map.1 h
  rw [String.length_ofList]
  exact ⟨List.length_pos_iff.2 (ne_nil_of_mem_chunks hcs), length_le_of_mem_chunks hn hcs⟩

end WebClip
