import WebClip.Proofs.Chunks
import WebClip.Proofs.Requests
/-!
# Appending in batches

Blocks are appended in the batches that are planned for them, one after another, each from where
the one before it has succeeded. The first that fails ends it. Its error says how many blocks are
there and which are not, and those that are there and those that are not are the blocks in order.
-/

namespace WebClip

open Act

variable {σ τ : Type} [Clock τ]

/-- The requests that append batches, in the order of a log, the last one first. -/
def appendings (id : Value) (batches : List (List Value)) : List Event :=
  (batches.map fun batch => .asked (.append id batch)).reverse

/-- Batches are appended by requests that succeed, each made in the session that the one before
it left. -/
inductive Commits (c : Clipper σ τ) (id : Value) : Session σ τ → List (List Value) → Session σ τ → Prop
  | nil (s : Session σ τ) : Commits c id s [] s
  | cons {s t u : Session σ τ} {batch : List Value} {rest : List (List Value)} {reply : Value} :
    carryOut (ask (.append id batch)) c s = (.ok reply, t) → Commits c id t rest u →
    Commits c id s (batch :: rest) u

/-- What appending some blocks of `total` comes to in the session that the committed ones left,
and which of their batches are left to append. -/
inductive Concludes (c : Clipper σ τ) (id : Value) (total committed : Nat) (t : Session σ τ) :
    List (List Value) → Except Fault Nat × Session σ τ → Prop
  | whole : Concludes c id total committed t [] (.ok committed, t)
  /-- A batch fails with an error of the clipper's own: the error says what is there and what is not. -/
  | partly {batch : List Value} {rest : List (List Value)} {e : ClipError} {u : Session σ τ} :
    carryOut (ask (.append id batch)) c t = (.error (.clip e), u) →
    Concludes c id total committed t (batch :: rest)
      (.error (.clip (.make (.write id committed (batch :: rest).flatten .null) e.message)),
        { u with notices := .error ("Failed to append blocks after " ++ toString committed ++ "/" ++
          toString total ++ ": " ++ e.message) :: u.notices })
  /-- A batch fails in a way that nobody looks after. -/
  | broken {batch : List Value} {rest : List (List Value)} {f : Fault} {u : Session σ τ} :
    carryOut (ask (.append id batch)) c t = (.error f, u) → (∀ e, f ≠ .clip e) →
    Concludes c id total committed t (batch :: rest) (.error f, u)

variable {c : Clipper σ τ} {id : Value} {s t : Session σ τ}

/-! ## Requests in the log -/

/-- A request is in the log unless the budget has refused it. -/
theorem events_ask (r : Request) (s : Session σ τ) :
    (carryOut (ask r) c s).2.events = .asked r :: s.events ∨
      (carryOut (ask r) c s).2.events = s.events ∧ ∃ e, (carryOut (ask r) c s).1 = .error (.clip e) := by
  rcases ask_cases (c := c) r s with ⟨e, n, -, heq⟩ | ⟨b, -, heq⟩ <;> rw [heq]
  · exact .inr ⟨rfl, e, rfl⟩
  · exact .inl rfl

/-- What has been committed is in the log, in order. -/
theorem Commits.events {batches : List (List Value)} (h : Commits c id s batches t) :
    t.events = appendings id batches ++ s.events := by
  induction h with
  | nil => rfl
  | @cons s t u batch rest reply hask _ ih =>
    rcases events_ask (c := c) (.append id batch) s with hlog | ⟨-, e, he⟩
    · rw [hask] at hlog
      rw [ih, hlog, appendings, appendings, List.map_cons, List.reverse_cons, List.append_assoc]
      rfl
    · rw [hask] at he
      cases he

/-- After what was committed one more batch is sent at most. -/
theorem Concludes.events {total committed : Nat} {left : List (List Value)} {r : Except Fault Nat × Session σ τ}
    (h : Concludes c id total committed t left r) :
    ∃ k ≤ 1, r.2.events = appendings id (left.take k) ++ t.events := by
  have hsent {batch : List Value} {rest : List (List Value)} {f : Fault} {u : Session σ τ}
      (hask : carryOut (ask (.append id batch)) c t = (.error f, u)) :
      ∃ k ≤ 1, u.events = appendings id ((batch :: rest).take k) ++ t.events := by
    have hlog := events_ask (c := c) (.append id batch) t
    rw [hask] at hlog
    rcases hlog with hlog | ⟨hlog, -⟩
    · exact ⟨1, Nat.le_refl 1, hlog⟩
    · exact ⟨0, Nat.zero_le 1, hlog⟩
  cases h with
  | whole => exact ⟨0, Nat.zero_le 1, rfl⟩
  | partly hask =>
    obtain ⟨k, hk, hlog⟩ := hsent hask
    exact ⟨k, hk, hlog⟩
  | broken hask => exact hsent hask

theorem Concludes.of_nil {total committed : Nat} {r : Except Fault Nat × Session σ τ}
    (h : Concludes c id total committed t [] r) : r = (.ok committed, t) := by
  cases h
  rfl

/-! ## Batch by batch -/

/-- Some of the batches are committed, from the first on, and then there are none left or the next
one fails. -/
theorem appendBatches_concludes (id : Value) (total n : Nat) (batches : List (List Value)) (s : Session σ τ) :
    ∃ committed left t, batches = committed ++ left ∧ Commits c id s committed t ∧
      Concludes c id total (n + committed.flatten.length) t left
        (carryOut (Service.appendBatches id total n batches) c s) := by
  induction batches generalizing n s with
  | nil => exact ⟨[], [], s, rfl, .nil s, .whole⟩
  | cons batch rest ih =>
    rw [Service.appendBatches, carryOut_bind, carryOut_attempt]
    rcases hask : carryOut (ask (.append id batch)) c s with ⟨f | reply, u⟩
    · refine ⟨[], batch :: rest, s, rfl, .nil s, ?_⟩
      cases f with
      | clip e => exact .partly hask
      | _ => exact .broken hask nofun
    · obtain ⟨committed, left, t, hsplit, hcommits, hend⟩ := ih (n + batch.length) u
      refine ⟨batch :: committed, left, t, by rw [hsplit, List.cons_append], .cons hask hcommits, ?_⟩
      rw [List.flatten_cons, List.length_append, ← Nat.add_assoc]
      exact hend

/-- Blocks are appended in the batches planned for them, none of them empty or too large: first
some that are committed one after another, and then there are none left, or the next one fails and
nothing follows it. The number that is answered, or that the error tells, is that of the blocks
committed, and with those that the error calls missing they are the blocks in order. -/
theorem append_commits (c : Clipper σ τ) (s : Session σ τ) (id : Value) (blocks : List Value) :
    ∃ committed left t, planBatches 100 blocks = .ok (committed ++ left) ∧
      (∀ batch ∈ committed ++ left, 1 ≤ batch.length ∧ batch.length ≤ 100) ∧
      committed.flatten ++ left.flatten = blocks ∧ Commits c id s committed t ∧
      Concludes c id blocks.length committed.flatten.length t left (carryOut (Service.append id blocks) c s) ∧
      (left = [] → (carryOut (Service.append id blocks) c s).1 = .ok blocks.length) ∧
      ∃ k ≤ 1, (carryOut (Service.append id blocks) c s).2.events =
        appendings id (committed ++ left.take k) ++ s.events := by
  obtain ⟨committed, left, t, hsplit, hcommits, hend⟩ :=
    appendBatches_concludes (c := c) id blocks.length 0 (chunks maxBatch blocks) s
  rw [Nat.zero_add] at hend
  have hall : committed.flatten ++ left.flatten = blocks := by
    rw [← List.flatten_append, ← hsplit, flatten_chunks]
  refine ⟨committed, left, t, ?_, ?_, hall, hcommits, hend, ?_, ?_⟩
  · rw [← hsplit]
    rfl
  · rw [← hsplit]
    exact fun batch h => ⟨List.length_pos_iff.2 (ne_nil_of_mem_chunks h), length_le_of_mem_chunks (by decide) h⟩
  · rintro rfl
    rw [List.flatten_nil, List.append_nil] at hall
    rw [Service.append, hend.of_nil, hall]
  · obtain ⟨k, hk, hlog⟩ := hend.events
    refine ⟨k, hk, ?_⟩
    rw [appendings, List.map_append, List.reverse_append, List.append_assoc]
    exact hlog.trans (congrArg _ hcommits.events)

end WebClip
