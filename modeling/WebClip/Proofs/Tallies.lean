import WebClip.Proofs.Sweeping
/-!
# The counts of a sweep

What a sweep says it has done is what it has done: images moved are blocks changed, and every image
and every listing that failed is counted. After an error of the whole document nothing is called on.
-/

namespace WebClip

open Act

/-- Whether a fault is an error that concerns the whole document. -/
def Fault.stopsAll : Fault → Bool
  | clip e => e.kind.stopsAll
  | _ => false

/-- Whether it ends in such an error. -/
def stops {α : Type} : Except Fault α → Bool
  | .error f => f.stopsAll
  | .ok _ => false

/-- Whether there is a result and no error. -/
def succeeds {α : Type} : Except Fault α → Bool
  | .ok _ => true
  | .error _ => false

theorem NoClip.not_stops {α : Type} {r : Except Fault α} (h : NoClip r) : stops r = false := by
  cases r with
  | ok => rfl
  | error f =>
    cases f with
    | clip e => exact absurd rfl (h e)
    | _ => rfl

namespace Deed

/-- Whether an error of a call concerns the whole document. -/
def stops : Deed → Bool
  | noted .. => false
  | listed _ _ o | uploaded _ o | updated _ _ o => WebClip.stops o
  | downloaded _ o => WebClip.stops o

/-- Whether a block is changed. -/
def changes : Deed → Bool
  | updated _ _ o => succeeds o
  | _ => false

end Deed

/-- The deeds end with notes only where an error of the whole document comes over one of them, and
so many blocks are changed by them. -/
structure Tally (ds : List Deed) (stopped : Bool) (changes : Nat) : Prop where
  silent : ds.Pairwise fun d d' => d.stops = true → d'.isNote = true
  stopped : ds.any Deed.stops = stopped
  changes : ds.countP Deed.changes = changes

namespace Tally

variable {ds es : List Deed} {b : Bool} {m n : Nat}

theorem nil : Tally [] false 0 := ⟨.nil, rfl, rfl⟩

theorem single (d : Deed) : Tally [d] d.stops d.changes.toNat := by
  refine ⟨List.pairwise_singleton _ _, by simp, ?_⟩
  cases hd : d.changes <;> simp [hd]

theorem append (h : Tally ds false m) (h' : Tally es b n) : Tally (ds ++ es) b (m + n) := by
  refine ⟨List.pairwise_append.2 ⟨h.silent, h'.silent, fun d hd _ _ hstops => ?_⟩, ?_, ?_⟩
  · have hnone := List.any_eq_false.1 h.stopped d hd
    exact absurd hstops hnone
  · rw [List.any_append, h.stopped, h'.stopped, Bool.false_or]
  · rw [List.countP_append, h.changes, h'.changes]

theorem cons_note (h : Tally ds b n) (url : String) (state : ImageState) : Tally (.noted url state :: ds) b n := by
  have hcons := (single (.noted url state)).append h
  rwa [show (Deed.noted url state).changes.toNat + n = n from Nat.zero_add n] at hcons

/-- Notes may follow anything. -/
theorem append_notes (h : Tally ds b n) (hes : ∀ d ∈ es, d.isNote = true) : Tally (ds ++ es) b n := by
  have hnone : ∀ d ∈ es, d.stops = false ∧ d.changes = false := by
    intro d hd
    have hnote := hes d hd
    cases d with
    | noted => exact ⟨rfl, rfl⟩
    | _ => cases hnote
  refine ⟨List.pairwise_append.2 ⟨h.silent, ?_, fun _ _ d hd _ => hes d hd⟩, ?_, ?_⟩
  · exact List.pairwise_of_forall_mem_list fun _ _ d hd _ => hes d hd
  · rw [List.any_append, h.stopped, List.any_eq_false.2 fun d hd => by simp [(hnone d hd).1], Bool.or_false]
  · rw [List.countP_append, h.changes, List.countP_eq_zero.2 fun d hd => by simp [(hnone d hd).2], Nat.add_zero]

end Tally

/-! ## One image -/

namespace Image

theorem stops_uploadError (url : String) (e : ClipError) :
    stops (.error (.clip (uploadError url e)) : Except Fault Value) = e.kind.stopsAll := by
  obtain ⟨kind, message, status⟩ := e
  cases kind <;> rfl

theorem Moved.tally {image : Download} {ds : List Deed} {r : Except Fault Value} (h : Moved image ds r) :
    Tally ds (stops r) 0 := by
  cases h with
  | done id => exact .cons_note ((Tally.single _).append_notes (by simp [Deed.isNote, Deed.note?])) _ _
  | failed e =>
    rw [stops_uploadError]
    have hcall := Tally.single (.uploaded image (.error (.clip e)))
    exact .cons_note (hcall.append_notes (by simp [Deed.isNote, Deed.note?])) _ _
  | broken => exact .cons_note (.single _) _ _

theorem tally_sought (url : String) (o : Outcome) : Tally (sought url o) (stops o) 0 := by
  refine .cons_note (.cons_note (.append_notes (.single (.downloaded url o)) ?_) _ _) _ _
  intro d hd
  obtain ⟨state, rfl⟩ := Batched.isNote_of_ended? (Option.mem_toList.1 hd)
  rfl

theorem Rehosted.tally {url : String} {ds : List Deed} {r : Except Fault Value} (h : Rehosted url ds r) :
    Tally ds (stops r) 0 := by
  cases h with
  | notDownloaded f => exact tally_sought url (.error f)
  | @notUploaded image _ f _ hmoved => exact (tally_sought url (.ok image)).append hmoved.tally
  | @done image id _ =>
    refine (tally_sought url (.ok image)).append (.append_notes (Moved.done id).tally ?_)
    simp [Deed.isNote, Deed.note?]

end Image

namespace Sweep

theorem Attempted.tally {block : Value} {ds : List Deed} {o : Except Fault Unit} (h : Attempted block ds o) :
    Tally ds (stops o) (succeeds o).toNat := by
  cases h with
  | malformed hf => exact hf.not_stops ▸ .nil
  | kept _ h => exact h.tally
  | lost _ h hf => exact hf.not_stops ▸ h.tally
  | @updated _ ds id blockId caption o _ h =>
    have hstops : stops (o.map fun _ => ()) = stops o := by cases o <;> rfl
    have hsucceeds : succeeds (o.map fun _ => ()) = succeeds o := by cases o <;> rfl
    rw [hstops, hsucceeds]
    have hall := h.tally.append (Tally.single (.updated blockId (uploadPayload id caption) o))
    rwa [Nat.zero_add] at hall

/-! ## Visits -/

namespace Visit

/-- Whether the image of the block has been moved. -/
def moved (v : Visit) : Bool := v.outcome?.any succeeds

/-- Whether the attempt to move it has failed. -/
def failed (v : Visit) : Bool := v.outcome?.any (!succeeds ·)

/-- Whether an error of the whole document has come over the attempt. -/
def stops (v : Visit) : Bool := v.outcome?.any WebClip.stops

theorem tally {v : Visit} (h : v.Sound) : Tally v.deeds v.stops v.moved.toNat := by
  obtain ⟨block, _ | ⟨ds, o⟩⟩ := v
  · exact .nil
  · exact (h ds o rfl).2.tally

theorem attempted_iff {v : Visit} (h : v.Sound)
    (hnone : v.attempt? = none → Reply.isExternalImage v.block = .ok false) :
    v.attempt?.isSome = true ↔ Reply.isExternalImage v.block = .ok true := by
  obtain ⟨block, _ | ⟨ds, o⟩⟩ := v
  · simp [hnone rfl]
  · simp [(h ds o rfl).1]

end Visit

/-- What visits to blocks, listings passed over after an error, and these deeds add to what a sweep has done. -/
structure Gains (s s' : SweepResult) (vs : List Visit) (passed : Nat) (ds : List Deed) : Prop where
  visited : s'.visited = s.visited + vs.length
  processed : s'.processed = s.processed + vs.countP Visit.moved + vs.countP Visit.failed
  migrated : s'.migrated = s.migrated + vs.countP Visit.moved
  failed : s'.failed = s.failed + vs.countP Visit.failed + passed
  attempted : ∀ v ∈ vs, v.attempt? = none → Reply.isExternalImage v.block = .ok false
  tally : Tally ds s'.stoppedEarly (vs.countP Visit.moved)

theorem Gains.nil {s : SweepResult} (h : s.stoppedEarly = false) : Gains s s [] 0 [] :=
  ⟨rfl, rfl, rfl, rfl, by simp, h ▸ .nil⟩

theorem Gains.append {s s' s'' : SweepResult} {vs ws : List Visit} {p q : Nat} {ds es : List Deed}
    (h : Gains s s' vs p ds) (hs : s'.stoppedEarly = false) (h' : Gains s' s'' ws q es) :
    Gains s s'' (vs ++ ws) (p + q) (ds ++ es) := by
  have htally := h.tally
  rw [hs] at htally
  refine ⟨?_, ?_, ?_, ?_, fun v hv => (List.mem_append.1 hv).elim (h.attempted v) (h'.attempted v), ?_⟩
  · rw [h'.visited, h.visited, List.length_append, Nat.add_assoc]
  · rw [h'.processed, h.processed, List.countP_append, List.countP_append]
    omega
  · rw [h'.migrated, h.migrated, List.countP_append, Nat.add_assoc]
  · rw [h'.failed, h.failed, List.countP_append]
    omega
  · rw [List.countP_append]
    exact htally.append h'.tally

theorem Gains.visit {s s' : SweepResult} {v : Visit} (hv : v.Sound) (hvisited : s'.visited = s.visited + 1)
    (hprocessed : s'.processed = s.processed + v.moved.toNat + v.failed.toNat)
    (hmigrated : s'.migrated = s.migrated + v.moved.toNat) (hfailed : s'.failed = s.failed + v.failed.toNat)
    (hstopped : s'.stoppedEarly = v.stops)
    (hattempted : v.attempt? = none → Reply.isExternalImage v.block = .ok false) :
    Gains s s' [v] 0 v.deeds := by
  have hcount (p : Visit → Bool) : [v].countP p = (p v).toNat := by cases hp : p v <;> simp [hp]
  refine ⟨hvisited, ?_, ?_, ?_, by simpa using hattempted, ?_⟩
  · rwa [hcount, hcount]
  · rwa [hcount]
  · rwa [hcount]
  · rw [hstopped, hcount]
    exact Visit.tally hv

theorem Seen.gains {s s' : Sweep} {v : Visit} (h : Seen s v (.ok s')) (hv : v.Sound)
    (hs : s.result.stoppedEarly = false) :
    Gains s.result s'.result [v] 0 v.deeds := by
  have hsome {o : Except Fault Unit} (ho : v.outcome? = some o) (hnone : v.attempt? = none) :
      Reply.isExternalImage v.block = .ok false := by
    rw [Visit.outcome?, hnone] at ho
    cases ho
  cases h with
  | passed _ himage hnone =>
    have ho : v.outcome? = none := by rw [Visit.outcome?, hnone]; rfl
    refine .visit hv rfl ?_ ?_ ?_ ?_ fun _ => himage <;> simp [Visit.moved, Visit.failed, Visit.stops, ho, entered, hs]
  | moved _ ho =>
    refine .visit hv rfl ?_ ?_ ?_ ?_ (hsome ho) <;>
      simp [Visit.moved, Visit.failed, Visit.stops, ho, entered, counted, hs, succeeds, stops]
  | failed _ ho hstops =>
    refine .visit hv rfl ?_ ?_ ?_ ?_ (hsome ho) <;>
      simp [Visit.moved, Visit.failed, Visit.stops, ho, entered, counted, hs, succeeds, stops, Fault.stopsAll, hstops]
  | stopped _ ho hstops =>
    refine .visit hv rfl ?_ ?_ ?_ ?_ (hsome ho) <;>
      simp [Visit.moved, Visit.failed, Visit.stops, ho, entered, counted, stop, succeeds, stops, Fault.stopsAll, hstops]

theorem SeenAll.gains {s s' : Sweep} {blocks : List Value} {vs : List Visit} (h : SeenAll s blocks vs (.ok s'))
    (hvs : ∀ v ∈ vs, v.Sound) (hs : s.result.stoppedEarly = false) :
    Gains s.result s'.result vs 0 (vs.flatMap Visit.deeds) := by
  generalize hr : (.ok s' : Except Fault Sweep) = r at h
  induction h with
  | nil =>
    cases hr
    exact .nil hs
  | @cons s s₁ v blocks vs r hseen hs₁ _ ih =>
    obtain ⟨hv, hvs⟩ := List.forall_mem_cons.1 hvs
    exact (hseen.gains hv hs).append hs₁ (ih hvs hs₁ hr)
  | @stopped s s₁ v blocks hseen _ =>
    cases hr
    simpa using hseen.gains (hvs v List.mem_cons_self) hs
  | broken => cases hr

/-! ## Rounds -/

namespace Round

/-- Whether the listing has failed with an error that the sweep passes over. -/
def passedOver (r : Round) : Bool := !succeeds r.answer && !stops r.answer

end Round

theorem result_continueListing {parent reply : Value} {s s' : Sweep} (h : continueListing parent reply s = .ok s') :
    s'.result = s.result := by
  unfold continueListing at h
  obtain ⟨more, -, h⟩ := exists_of_bind h
  split at h
  · obtain ⟨next, -, ⟨⟩⟩ := exists_of_bind h
    rfl
  · cases h
    rfl

theorem Listed.gains {s s' : Sweep} {round : Round} (h : Listed s round (.ok s'))
    (hvs : ∀ v ∈ round.visits, v.Sound) (hs : s.result.stoppedEarly = false) :
    Gains s.result s'.result round.visits round.passedOver.toNat round.deeds := by
  obtain ⟨parent, cursor, answer, visits⟩ := round
  have hlisting : Tally [.listed parent cursor answer] (stops answer) 0 := .single _
  have hread {reply : Value} {blocks : List Value} {t : Sweep} (ha : answer = .ok reply)
      (hall : SeenAll s blocks visits (.ok t)) :
      Gains s.result t.result visits (Round.passedOver ⟨parent, cursor, answer, visits⟩).toNat
        (Round.deeds ⟨parent, cursor, answer, visits⟩) := by
    subst ha
    have hgains := hall.gains hvs hs
    refine { hgains with tally := ?_ }
    have htally := hlisting.append hgains.tally
    rwa [Nat.zero_add] at htally
  generalize hr : (.ok s' : Except Fault Sweep) = r at h
  cases h with
  | read ha _ hall _ =>
    rw [result_continueListing hr.symm]
    exact hread ha hall
  | stopped ha _ hall _ =>
    cases hr
    exact hread ha hall
  | @refused e ha hstops hnone =>
    cases hr
    obtain rfl : answer = .error (.clip e) := ha
    obtain rfl : visits = [] := hnone
    have hstop : stops (.error (.clip e) : Except Fault Value) = true := hstops
    refine ⟨rfl, rfl, rfl, ?_, by simp, ?_⟩
    · simp [Round.passedOver, hstop, stop]
    · rwa [hstop] at hlisting
  | @failed e ha hstops hnone =>
    cases hr
    obtain rfl : answer = .error (.clip e) := ha
    obtain rfl : visits = [] := hnone
    have hstop : stops (.error (.clip e) : Except Fault Value) = false := hstops
    refine ⟨rfl, rfl, rfl, ?_, by simp, ?_⟩
    · simp [Round.passedOver, hstop, succeeds]
    · rwa [hstop, ← hs] at hlisting
  | _ => cases hr

theorem Sweeps.gains {n : Nat} {s s' : Sweep} {rounds : List Round} (h : Sweeps n s rounds (.ok s'))
    (hvs : ∀ round ∈ rounds, ∀ v ∈ round.visits, v.Sound) (hs : s.result.stoppedEarly = false) :
    Gains s.result s'.result (rounds.flatMap Round.visits) (rounds.countP Round.passedOver)
      (rounds.flatMap Round.deeds) := by
  generalize hr : (.ok s' : Except Fault Sweep) = r at h
  induction h with
  | done =>
    cases hr
    exact .nil hs
  | spent => cases hr
  | @round n s s₁ rest rounds r round hover hqueue hlisted hsweeps ih =>
    obtain ⟨hv, hvs⟩ := List.forall_mem_cons.1 hvs
    have hround : Gains s.result s₁.result round.visits round.passedOver.toNat round.deeds := hlisted.gains hv hs
    have hcount : (round :: rounds).countP Round.passedOver =
        round.passedOver.toNat + rounds.countP Round.passedOver := by
      cases hp : round.passedOver <;> simp [hp, Nat.add_comm]
    rw [List.flatMap_cons, List.flatMap_cons, hcount]
    cases hs₁ : s₁.result.stoppedEarly with
    | false => exact hround.append hs₁ (ih hvs hs₁ hr)
    | true =>
      obtain ⟨rfl, rfl⟩ := hsweeps.of_stopped hs₁
      cases hr
      simpa using hround
  | broken => cases hr

/-! ## The whole sweep -/

variable {σ τ : Type} [Clock τ] {c : Clipper σ τ}

/-- The result of a sweep accounts for its rounds. -/
structure Accounts (rounds : List Round) (result : SweepResult) : Prop where
  migrated : result.migrated = (rounds.flatMap Round.deeds).countP Deed.changes
  processed : result.processed = result.migrated + (rounds.flatMap Round.visits).countP Visit.failed
  failed : result.failed = (rounds.flatMap Round.visits).countP Visit.failed + rounds.countP Round.passedOver
  /-- Exactly the images at URLs of their own are attempted. -/
  attempted : ∀ v ∈ rounds.flatMap Round.visits, v.attempt?.isSome = true ↔ Reply.isExternalImage v.block = .ok true
  /-- It has stopped early if and only if an error of the whole document came over a listing or an attempt. -/
  stoppedEarly : result.stoppedEarly = true ↔
    ∃ round ∈ rounds, stops round.answer = true ∨ ∃ v ∈ round.visits, v.stops = true
  /-- Such an error comes over one of the calls, and after it there are none. -/
  called : result.stoppedEarly = true ↔ ∃ d ∈ rounds.flatMap Round.deeds, d.stops = true
  silent : (rounds.flatMap Round.deeds).Pairwise fun d d' => d.stops = true → d'.isNote = true

end Sweep

end WebClip
