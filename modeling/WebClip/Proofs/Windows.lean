import Mathlib.Algebra.Order.Ring.Defs
import Mathlib.Data.List.TakeWhile
import Mathlib.Tactic.Linarith
import WebClip.Session
/-!
# Windows of a budget

A budget forgets a request it has admitted only once that has left the window. So whenever it
admits one more, all requests of the last minute are still counted, and no minute, wherever it
starts, holds more of them than the budget allows.
-/

namespace WebClip.Budget

/-- A new budget is empty and not negative. -/
theorem of_ofLimit {τ : Type} {n : Int} {b : Budget τ} (h : ofLimit n = .ok b) : b.admitted = [] ∧ 0 ≤ b.perMinute := by
  unfold ofLimit at h
  split at h
  next => cases h
  next hpositive =>
    cases h
    exact ⟨rfl, (Int.not_le.1 hpositive).le⟩

variable {K : Type} [CommRing K] [LinearOrder K]

/-- Whether a time lies in the minute that begins at another. -/
def inMinute (start t : K) : Bool := decide (start ≤ t) && decide (t < start + 60)

/-- No minute holds more than `n` of the times. -/
def Sparse (n : Int) (times : List K) : Prop := ∀ start, (times.countP (inMinute start) : Int) ≤ n

/-- Of the times admitted the budget has forgotten only those that have left the window by now. -/
def Remembers (b : Budget K) (admitted : List K) (now : K) : Prop :=
  ∃ old, admitted = old ++ b.admitted ∧ ∀ t ∈ old, 60 ≤ now - t

variable {b b' : Budget K} {admitted : List K} {now : K}

theorem Sparse.nil {n : Int} (h : 0 ≤ n) : Sparse n ([] : List K) := fun _ => h

theorem Sparse.sublist {n : Int} {times fewer : List K} (h : Sparse n times) (hsub : fewer.Sublist times) :
    Sparse n fewer := by
  intro start
  have hcount := hsub.countP_le (p := inMinute start)
  have hall := h start
  omega

theorem Remembers.self (b : Budget K) (now : K) : Remembers b b.admitted now := ⟨[], rfl, by simp⟩

/-- Requests are admitted only while the window has room for them. -/
theorem of_acquire (h : b.acquire now = .ok b') :
    b'.perMinute = b.perMinute ∧ b'.admitted = (b.expire now).admitted ++ [now] ∧
      ((b.expire now).admitted.length : Int) < b.perMinute := by
  unfold acquire at h
  dsimp only at h
  split at h
  next => cases h
  next hroom =>
    cases h
    exact ⟨rfl, rfl, Int.not_le.1 hroom⟩

theorem Remembers.expire (h : Remembers b admitted now) : Remembers (b.expire now) admitted now := by
  obtain ⟨old, rfl, hold⟩ := h
  refine ⟨old ++ b.admitted.takeWhile (isOld now), ?_, ?_⟩
  · rw [List.append_assoc, Budget.expire, List.takeWhile_append_dropWhile]
  · intro t ht
    rcases List.mem_append.1 ht with ht | ht
    · exact hold t ht
    · have hleft : isOld now t = true := List.mem_takeWhile_imp ht
      exact of_decide_eq_true hleft

theorem Remembers.acquire (h : Remembers b admitted now) (ha : b.acquire now = .ok b') :
    Remembers b' (admitted ++ [now]) now := by
  obtain ⟨old, rfl, hold⟩ := h.expire
  obtain ⟨-, hadmitted, -⟩ := of_acquire ha
  exact ⟨old, by rw [hadmitted, List.append_assoc], hold⟩

variable [IsStrictOrderedRing K]

/-- What has left the window does not come back. -/
theorem Remembers.later {later : K} (h : Remembers b admitted now) (hle : now ≤ later) : Remembers b admitted later := by
  obtain ⟨old, hadmitted, hold⟩ := h
  refine ⟨old, hadmitted, fun t ht => ?_⟩
  have hleft := hold t ht
  linarith

/-- Admitting one more request overfills no minute. -/
theorem Sparse.acquire (hsparse : Sparse b.perMinute admitted) (h : Remembers b admitted now)
    (ha : b.acquire now = .ok b') : Sparse b'.perMinute (admitted ++ [now]) := by
  obtain ⟨old, hadmitted, hold⟩ := h.expire
  obtain ⟨hsame, -, hroom⟩ := of_acquire ha
  intro start
  rw [hsame, List.countP_append]
  by_cases hin : inMinute start now = true
  · -- the minute holds the request just admitted, so nothing in it has left the window
    obtain ⟨hstart, hend⟩ := Bool.and_eq_true_iff.1 hin
    have hnone : old.countP (inMinute start) = 0 := by
      rw [List.countP_eq_zero]
      intro t ht hmem
      have hleft := hold t ht
      have hbegun := of_decide_eq_true (Bool.and_eq_true_iff.1 hmem).1
      have hnow := of_decide_eq_true hend
      linarith
    have hkept := (b.expire now).admitted.countP_le_length (p := inMinute start)
    have hone : [now].countP (inMinute start) = 1 := by simp [hin]
    rw [hadmitted, List.countP_append, hnone, hone]
    omega
  · have hother : [now].countP (inMinute start) = 0 := by simp [hin]
    rw [hother, Nat.add_zero]
    exact hsparse start

end WebClip.Budget

/-- Exact numbers as the readings of a clock. -/
instance (priority := low) WebClip.Clock.exact {K : Type} [CommRing K] [LinearOrder K] : WebClip.Clock K where
  decideLe := inferInstance
