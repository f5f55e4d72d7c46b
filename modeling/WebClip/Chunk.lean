import WebClip.Fault
/-!
# Cutting into chunks

Texts are cut into runs and blocks into batches by one rule: chunks of exactly the
limit, the last one shorter if need be, none of them empty.
-/

namespace WebClip

/-- Consecutive chunks of `limit` elements, the last with what is left. -/
def chunks {α : Type} (limit : Nat) : List α → List (List α)
  | [] => []
  | x :: rest => (x :: rest.take (limit - 1)) :: chunks limit (rest.drop (limit - 1))
termination_by xs => xs.length
decreasing_by simp only [List.length_drop, List.length_cons]; omega

@[simp] theorem chunks_nil {α : Type} (limit : Nat) : chunks limit ([] : List α) = [] := by
  rw [chunks]

theorem chunks_cons {α : Type} (limit : Nat) (x : α) (rest : List α) :
    chunks limit (x :: rest) =
      (x :: rest.take (limit - 1)) :: chunks limit (rest.drop (limit - 1)) := by
  rw [chunks]

/-- A text in chunks of at most `limit` characters. -/
def cutText (limit : Nat) (s : String) : List String :=
  (chunks limit s.toList).map String.ofList

/-- A text in chunks of at most `limit` characters, if that is positive. -/
def splitText (limit : Int) (s : String) : Except Fault (List String) :=
  if limit ≤ 0 then .error (.badValue "limit must be positive") else .ok (cutText limit.toNat s)

/-- The most blocks that one request takes. -/
def maxBatch : Nat := 100

/-- Blocks in batches of at most `size`; a negative size makes no batches. -/
def planBatches {α : Type} (size : Int) (blocks : List α) : Except Fault (List (List α)) :=
  if size = 0 then .error (.badValue "range() arg 3 must not be zero")
  else if size < 0 then .ok []
  else .ok (chunks size.toNat blocks)

end WebClip
