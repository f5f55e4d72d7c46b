import Mathlib.Algebra.Order.Ring.Int
import WebClip.Proofs.Requests
import WebClip.Proofs.Windows
/-!
# What a budget answers

A budget drops the times at its front that have left the window, and only when it is asked. Read
at a clock that never goes back it still answers as if it looked at everything it has ever
admitted: what counts is how many admissions lie less than sixty seconds behind. So calls that
admit nothing can be left out, and nobody who calls later can tell.
-/

namespace WebClip.Budget

/-! ## Calls -/

/-- What a budget can be asked for. -/
inductive Call where
  /-- To admit a request. -/
  | acquire
  /-- How many requests it would admit. -/
  | remaining
  deriving DecidableEq

/-- What it answers. -/
inductive Answer where
  | admitted
  | refused (e : ClipError)
  | left (n : Int)

/-- Whether a request was admitted. -/
def Answer.isAdmitted : Answer → Bool
  | admitted => true
  | refused _ | left _ => false

section Calls
variable {τ : Type} [Sub τ] [LE τ] [DecidableLE τ] [OfNat τ 60] {b b' : Budget τ} {now : τ}

/-- The answer to a call, and the budget after it, which has dropped what has left the window. -/
def call (now : τ) (b : Budget τ) : Call → Answer × Budget τ
  | .acquire =>
    match b.acquire now with
    | .ok b' => (.admitted, b')
    | .error e => (.refused e, b.expire now)
  | .remaining => (.left (b.remaining now), b.expire now)

theorem call_of_ok (h : b.acquire now = .ok b') : b.call now .acquire = (.admitted, b') := by
  rw [call, h]

theorem call_of_error {e : ClipError} (h : b.acquire now = .error e) :
    b.call now .acquire = (.refused e, b.expire now) := by
  rw [call, h]

/-- A session spends its budget by such calls. -/
theorem spend_calls {σ τ : Type} [Clock τ] (c : Clipper σ τ) (label : String) (s : Session σ τ) :
    (Act.carryOut (Act.spend label) c s).2.budget = (s.budget.call (c.outside.now s.outside) .acquire).2 ∧
      ((Act.carryOut (Act.spend label) c s).1 = .ok () ↔
        (s.budget.call (c.outside.now s.outside) .acquire).1.isAdmitted = true) := by
  rw [Act.carryOut_spend]
  cases ha : s.budget.acquire (c.outside.now s.outside) with
  | ok b => rw [call_of_ok ha]; exact ⟨rfl, iff_of_true rfl rfl⟩
  | error e => rw [call_of_error ha]; exact ⟨rfl, iff_of_false nofun nofun⟩

/-- The answers to calls, each at its time. -/
def answers (b : Budget τ) : List (τ × Call) → List Answer
  | [] => []
  | (now, c) :: rest => (b.call now c).1 :: answers (b.call now c).2 rest

/-- The budget after calls. -/
def after (b : Budget τ) : List (τ × Call) → Budget τ
  | [] => b
  | (now, c) :: rest => after (b.call now c).2 rest

/-- The times of the calls that were admitted. -/
def admissions (b : Budget τ) (calls : List (τ × Call)) : List τ :=
  ((calls.zip (b.answers calls)).filter (·.2.isAdmitted)).map (·.1.1)

theorem answers_append (b : Budget τ) (calls later : List (τ × Call)) :
    b.answers (calls ++ later) = b.answers calls ++ (b.after calls).answers later := by
  induction calls generalizing b with
  | nil => rfl
  | cons x rest ih => rw [List.cons_append, answers, answers, after, ih, List.cons_append]

theorem length_answers (b : Budget τ) (calls : List (τ × Call)) : (b.answers calls).length = calls.length := by
  induction calls generalizing b with
  | nil => rfl
  | cons x rest ih => rw [answers, List.length_cons, List.length_cons, ih]

theorem admissions_cons (b : Budget τ) (now : τ) (c : Call) (rest : List (τ × Call)) :
    b.admissions ((now, c) :: rest) =
      (if (b.call now c).1.isAdmitted then [now] else []) ++ (b.call now c).2.admissions rest := by
  rw [admissions, answers, List.zip_cons_cons, List.filter_cons]
  split <;> rfl

end Calls

/-- The elements at the places that stay. -/
def thin {α : Type} (stays : List Bool) (xs : List α) : List α := ((xs.zip stays).filter (·.2)).map (·.1)

@[simp] theorem thin_nil {α : Type} (stays : List Bool) : thin stays ([] : List α) = [] := rfl

@[simp] theorem thin_none {α : Type} (xs : List α) : thin [] xs = [] := by
  rw [thin, List.zip_nil_right]
  rfl

@[simp] theorem thin_cons {α : Type} (stay : Bool) (stays : List Bool) (x : α) (xs : List α) :
    thin (stay :: stays) (x :: xs) = if stay then x :: thin stays xs else thin stays xs := by
  rw [thin, List.zip_cons_cons, List.filter_cons]
  split <;> rfl

/-! ## What the window calls for -/

variable {K : Type} [CommRing K] [LinearOrder K]

/-- How many of the times lie less than sixty seconds behind. -/
def recent (now : K) (times : List K) : Nat := times.countP fun t => decide (now - t < 60)

/-- The answer that the window calls for, with the times of all admissions so far. -/
def due (n : Int) (times : List K) (now : K) : Call → Answer
  | .acquire => if (recent now times : Int) < n then .admitted else .refused (refusal (τ := K) { perMinute := n })
  | .remaining => .left (n - recent now times)

/-- A budget that has admitted requests at some times up to now. -/
structure Tracks (b : Budget K) (n : Int) (times : List K) (now : K) : Prop where
  limit : b.perMinute = n
  room : (b.admitted.length : Int) ≤ n
  remembers : b.Remembers times now
  sorted : times.Pairwise (· ≤ ·)
  past : ∀ t ∈ times, t ≤ now

variable {b b' : Budget K} {n : Int} {times : List K} {now : K}

theorem Tracks.of_ofLimit (h : ofLimit n = .ok b) (now : K) : b.Tracks n [] now := by
  obtain ⟨-, hn⟩ := Budget.of_ofLimit h
  unfold ofLimit at h
  split at h
  next => cases h
  next =>
    cases h
    exact ⟨rfl, hn, .self _ now, .nil, by simp⟩

variable [IsStrictOrderedRing K]

theorem Tracks.at {later : K} (h : b.Tracks n times now) (hle : now ≤ later) : b.Tracks n times later where
  limit := h.limit
  room := h.room
  remembers := h.remembers.later hle
  sorted := h.sorted
  past t ht := (h.past t ht).trans hle

/-- Behind the first time in the window, times in order are all in it. -/
theorem recent_of_mem_dropWhile {ts : List K} (hs : ts.Pairwise (· ≤ ·)) {t : K}
    (ht : t ∈ ts.dropWhile (isOld now)) : now - t < 60 := by
  induction ts with
  | nil => cases ht
  | cons first rest ih =>
    obtain ⟨hfirst, hrest⟩ := List.pairwise_cons.1 hs
    rw [List.dropWhile_cons] at ht
    split at ht
    next => exact ih hrest ht
    next hnew =>
      have hin : now - first < 60 := by
        rwa [isOld, decide_eq_true_eq, not_le] at hnew
      rcases List.mem_cons.1 ht with rfl | hmem
      · exact hin
      · have hle := hfirst t hmem
        linarith

/-- What the budget keeps is what counts. -/
theorem Tracks.recent_eq (h : b.Tracks n times now) : recent now times = (b.expire now).admitted.length := by
  obtain ⟨old, rfl, hold⟩ := h.remembers
  have hkept : b.admitted.Pairwise (· ≤ ·) := (List.pairwise_append.1 h.sorted).2.1
  have hleft : (b.admitted.takeWhile (isOld now)).countP (fun t => decide (now - t < 60)) = 0 := by
    rw [List.countP_eq_zero]
    intro t ht
    have hold : isOld now t = true := List.mem_takeWhile_imp ht
    simpa [isOld] using hold
  have hbefore : old.countP (fun t => decide (now - t < 60)) = 0 := by
    rw [List.countP_eq_zero]
    intro t ht
    simpa using hold t ht
  have hin : (b.admitted.dropWhile (isOld now)).countP (fun t => decide (now - t < 60)) =
      (b.admitted.dropWhile (isOld now)).length := by
    rw [List.countP_eq_length]
    intro t ht
    simpa using recent_of_mem_dropWhile hkept ht
  rw [recent, List.countP_append, hbefore, Nat.zero_add, expire]
  conv => lhs; rw [← List.takeWhile_append_dropWhile (p := isOld now) (l := b.admitted)]
  rw [List.countP_append, hleft, hin, Nat.zero_add]

/-- No more count than the budget allows. -/
theorem Tracks.recent_le (h : b.Tracks n times now) : (recent now times : Int) ≤ n := by
  have hfewer := (List.dropWhile_sublist (isOld now) (l := b.admitted)).length_le
  have hroom := h.room
  rw [h.recent_eq, expire]
  dsimp only
  omega

theorem Tracks.expire (h : b.Tracks n times now) : (b.expire now).Tracks n times now where
  limit := h.limit
  room := h.recent_eq ▸ h.recent_le
  remembers := h.remembers.expire
  sorted := h.sorted
  past := h.past

/-- A call is answered as the window calls for, and the budget keeps track of it. -/
theorem Tracks.call (h : b.Tracks n times now) (c : Call) :
    (b.call now c).1 = due n times now c ∧
      (b.call now c).2.Tracks n (times ++ if (b.call now c).1.isAdmitted then [now] else []) now := by
  have hcount := h.recent_eq
  cases c with
  | remaining =>
    refine ⟨?_, by simpa [Budget.call, Answer.isAdmitted] using h.expire⟩
    rw [Budget.call, due, Budget.remaining, hcount, h.limit]
  | acquire =>
    rw [due, hcount]
    cases ha : b.acquire now with
    | ok b' =>
      obtain ⟨hsame, hadmitted, hroom⟩ := of_acquire ha
      rw [h.limit] at hroom
      rw [call_of_ok ha, if_pos hroom]
      refine ⟨rfl, hsame.trans h.limit, ?_, h.remembers.acquire ha, ?_, ?_⟩
      · rw [hadmitted, List.length_append, List.length_singleton]
        omega
      · exact List.pairwise_append.2 ⟨h.sorted, List.pairwise_singleton _ _, fun t ht next hnext =>
          List.mem_singleton.1 hnext ▸ h.past t ht⟩
      · intro t ht
        rcases List.mem_append.1 ht with ht | ht
        · exact h.past t ht
        · exact (List.mem_singleton.1 ht).le
    | error e =>
      obtain ⟨hfull, rfl⟩ := of_refused ha
      rw [h.limit] at hfull
      rw [call_of_error ha, if_neg (by omega), refusal, refusal, h.limit]
      exact ⟨rfl, by simpa [Answer.isAdmitted] using h.expire⟩

/-! ## What is answered -/

/-- After calls the budget keeps track of what it had admitted before and on the way. -/
theorem Tracks.after (h : b.Tracks n times now) {calls : List (K × Call)} {later : K}
    (hforward : (calls.map (·.1)).Pairwise (· ≤ ·)) (hstart : ∀ t ∈ calls.map (·.1), now ≤ t)
    (hend : ∀ t ∈ calls.map (·.1), t ≤ later) (hle : now ≤ later) :
    (b.after calls).Tracks n (times ++ b.admissions calls) later := by
  induction calls generalizing b times now with
  | nil => simpa [Budget.after, admissions] using h.at hle
  | cons x rest ih =>
    obtain ⟨t, c⟩ := x
    rw [List.map_cons] at hforward hstart hend
    obtain ⟨hfirst, hrest⟩ := List.pairwise_cons.1 hforward
    obtain ⟨ht, -⟩ := List.forall_mem_cons.1 hstart
    obtain ⟨hlate, hends⟩ := List.forall_mem_cons.1 hend
    obtain ⟨-, htracks⟩ := (h.at ht).call c
    rw [Budget.after, admissions_cons, ← List.append_assoc]
    exact ih htracks hrest hfirst hends hlate

/-- Two budgets that have admitted requests at the same times answer later calls alike, also when
calls that admit nothing are left out for the one. -/
theorem answers_thin (h : b.Tracks n times now) (h' : b'.Tracks n times now) {calls : List (K × Call)}
    {stays : List Bool} (hforward : (calls.map (·.1)).Pairwise (· ≤ ·)) (hstart : ∀ t ∈ calls.map (·.1), now ≤ t)
    (hout : ∀ p ∈ (b.answers calls).zip stays, p.2 = false → p.1.isAdmitted = false) :
    b'.answers (thin stays calls) = thin stays (b.answers calls) := by
  induction calls generalizing b b' times now stays with
  | nil => simp [answers]
  | cons x rest ih =>
    obtain ⟨t, c⟩ := x
    rw [List.map_cons] at hforward hstart
    obtain ⟨hfirst, hrest⟩ := List.pairwise_cons.1 hforward
    obtain ⟨ht, -⟩ := List.forall_mem_cons.1 hstart
    obtain ⟨hanswer, htracks⟩ := (h.at ht).call c
    obtain ⟨hanswer', htracks'⟩ := (h'.at ht).call c
    cases stays with
    | nil => simp [answers]
    | cons stay stays =>
      rw [answers, List.zip_cons_cons] at hout
      obtain ⟨hthis, hothers⟩ := List.forall_mem_cons.1 hout
      rw [answers, thin_cons, thin_cons]
      cases stay with
      | true =>
        -- both answer alike and have admitted the same from here on
        rw [hanswer', ← hanswer] at htracks'
        rw [if_pos rfl, if_pos rfl, answers, hanswer', ← hanswer, ih htracks htracks' hrest hfirst hothers]
      | false =>
        -- the call that is left out has admitted nothing
        rw [hthis rfl] at htracks
        exact ih (by simpa using htracks) (h'.at ht) hrest hfirst hothers

/-- At a clock that never goes back, a budget answers every call as the admissions of the last
sixty seconds call for, which are never more than it allows. Leaving out calls that admit nothing
changes no other answer. -/
theorem answers_exact (hn : 0 < n) {calls : List (K × Call)} (hforward : (calls.map (·.1)).Pairwise (· ≤ ·)) :
    ∃ b : Budget K, ofLimit n = .ok b ∧
      (∀ before now c rest, calls = before ++ (now, c) :: rest →
        (b.answers calls)[before.length]? = some (due n (b.admissions before) now c) ∧
          (recent now (b.admissions before) : Int) ≤ n) ∧
      ∀ stays : List Bool, (∀ p ∈ (b.answers calls).zip stays, p.2 = false → p.1.isAdmitted = false) →
        b.answers (thin stays calls) = thin stays (b.answers calls) := by
  have hlimit : ofLimit n = .ok ({ perMinute := n } : Budget K) := if_neg (by omega)
  obtain ⟨start, hstart⟩ : ∃ start, ∀ t ∈ calls.map (·.1), start ≤ t := by
    cases hcalls : calls.map (·.1) with
    | nil => exact ⟨0, by simp⟩
    | cons first later =>
      rw [hcalls] at hforward
      exact ⟨first, List.forall_mem_cons.2 ⟨le_rfl, (List.pairwise_cons.1 hforward).1⟩⟩
  have htracks := Tracks.of_ofLimit hlimit start
  refine ⟨_, hlimit, ?_, fun stays hout => answers_thin htracks htracks hforward hstart hout⟩
  rintro before now c rest rfl
  rw [List.map_append, List.map_cons] at hforward hstart
  obtain ⟨hbefore, -, hpast⟩ := List.pairwise_append.1 hforward
  have hreached := htracks.after hbefore (fun t ht => hstart t (List.mem_append_left _ ht))
    (fun t ht => hpast t ht now List.mem_cons_self) (hstart now (by simp))
  rw [List.nil_append] at hreached
  refine ⟨?_, hreached.recent_le⟩
  rw [answers_append, answers, List.getElem?_append_right (length_answers _ _).le, length_answers, Nat.sub_self,
    List.getElem?_cons_zero, (hreached.call c).1]

/-- Two requests a minute, asked for more often than that. -/
def busyMinute : List (ℤ × Call) :=
  [(0, .acquire), (30, .acquire), (59, .acquire), (60, .remaining), (60, .acquire), (89, .acquire), (90, .remaining)]

/-- The third request is refused one second before the first leaves the window, and admitted when
sixty have passed. Nobody can tell whether the refused ones were made. -/
theorem busyMinute_answers :
    (0 : Int) < 2 ∧ (busyMinute.map (·.1)).Pairwise (· ≤ ·) ∧ ∃ b : Budget ℤ, ofLimit 2 = .ok b ∧
      b.answers busyMinute =
        [.admitted, .admitted, .refused b.refusal, .left 1, .admitted, .refused b.refusal, .left 1] ∧
      b.admissions (busyMinute.take 6) = [0, 30, 60] ∧
      b.answers [(0, .acquire), (30, .acquire), (60, .acquire), (90, .remaining)] =
        [.admitted, .admitted, .admitted, .left 1] := by
  have hforward : (busyMinute.map (·.1)).Pairwise (· ≤ ·) := by decide
  obtain ⟨b, hb, -, hthin⟩ := answers_exact (by decide : (0 : Int) < 2) hforward
  cases hb
  refine ⟨by decide, hforward, _, rfl, rfl, rfl, ?_⟩
  exact hthin [true, true, false, false, true, false, true] (by decide)

end WebClip.Budget
