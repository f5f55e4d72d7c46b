import WebClip.Proofs.Paths
/-!
# What actions ensure

`Ensures` says of an action that from every session it goes along a path, and what holds of
the moves of that path and of the result. Rules for the ways in which actions are put
together carry such facts from the requests up to whole commands.
-/

namespace WebClip.Act

variable {σ τ α β : Type}

/-! ## Carrying out -/

section CarryOut
variable (c : Clipper σ τ) (s : Session σ τ)

theorem carryOut_pure (x : α) : carryOut (pure x : Act σ τ α) c s = (.ok x, s) := rfl

theorem carryOut_throw (e : Fault) : carryOut (throw e : Act σ τ α) c s = (.error e, s) := rfl

theorem carryOut_read : carryOut (read : Act σ τ (Clipper σ τ)) c s = (.ok c, s) := rfl

theorem carryOut_get : carryOut (get : Act σ τ (Session σ τ)) c s = (.ok s, s) := rfl

theorem carryOut_set (t : Session σ τ) : carryOut (set t : Act σ τ PUnit) c s = (.ok ⟨⟩, t) := rfl

theorem carryOut_tell (n : Notice) :
    carryOut (tell n : Act σ τ Unit) c s = (.ok ⟨⟩, { s with notices := n :: s.notices }) := rfl

theorem carryOut_log (e : Event) :
    carryOut (log e : Act σ τ Unit) c s = (.ok ⟨⟩, { s with events := e :: s.events }) := rfl

theorem carryOut_orFault (r : Except Fault α) : carryOut (orFault r : Act σ τ α) c s = (r, s) := by
  cases r <;> rfl

/-- A composite ends where its first part fails, or else as its second part does from there. -/
theorem carryOut_bind (a : Act σ τ α) (f : α → Act σ τ β) :
    carryOut (a >>= f) c s = match carryOut a c s with
      | (.ok x, t) => carryOut (f x) c t
      | (.error e, t) => (.error e, t) := by
  rw [show carryOut (a >>= f) c s =
    ExceptT.bindCont (fun x => f x c) (carryOut a c s).1 (carryOut a c s).2 from rfl]
  rcases carryOut a c s with ⟨_ | _, t⟩ <;> rfl

theorem carryOut_tryCatch (a : Act σ τ α) (h : Fault → Act σ τ α) :
    carryOut (tryCatch a h) c s = match carryOut a c s with
      | (.ok x, t) => (.ok x, t)
      | (.error e, t) => carryOut (h e) c t := by
  rw [show carryOut (tryCatch a h) c s = ExceptT.tryCatch (a c) (fun e => h e c) s from rfl]
  unfold ExceptT.tryCatch ExceptT.mk
  simp only [bind, StateT.bind]
  rw [show carryOut a c s = a c s from rfl]
  rcases a c s with ⟨_ | _, t⟩ <;> rfl

theorem carryOut_attempt (a : Act σ τ α) :
    carryOut (attempt a) c s = (.ok (carryOut a c s).1, (carryOut a c s).2) := by
  unfold attempt
  rw [carryOut_tryCatch, carryOut_bind]
  rcases carryOut a c s with ⟨_ | _, t⟩ <;> rfl

end CarryOut

/-! ## Ensuring -/

variable [Clock τ]

/-- From the session the action goes along a path whose moves, with the result, satisfy `Q`. -/
def EnsuresFrom (c : Clipper σ τ) (s : Session σ τ) (Q : List Move → Except Fault α → Prop) (a : Act σ τ α) : Prop :=
  ∃ ms, Session.Path c s ms (carryOut a c s).2 ∧ Q ms (carryOut a c s).1

/-- From every session it does. -/
def Ensures (c : Clipper σ τ) (Q : List Move → Except Fault α → Prop) (a : Act σ τ α) : Prop :=
  ∀ s, EnsuresFrom c s Q a

/-- All moves of the action satisfy `P`, and its result satisfies `Q`. -/
def Does (c : Clipper σ τ) (P : Move → Prop) (Q : Except Fault α → Prop) (a : Act σ τ α) : Prop :=
  Ensures c (fun ms r => (∀ m ∈ ms, P m) ∧ Q r) a

variable {c : Clipper σ τ}

/-- The rule for composites from one session, with what the first part has come to. -/
theorem EnsuresFrom.bind {Q : List Move → Except Fault α → Prop} {S : List Move → Except Fault β → Prop}
    {a : Act σ τ α} {f : α → Act σ τ β} {s : Session σ τ} (ha : EnsuresFrom c s Q a)
    (he : ∀ ms e, Q ms (.error e) → S ms (.error e))
    (hf : ∀ ms x t, Session.Path c s ms t → carryOut a c s = (.ok x, t) → Q ms (.ok x) →
      EnsuresFrom c t (fun ns r => S (ms ++ ns) r) (f x)) : EnsuresFrom c s S (a >>= f) := by
  obtain ⟨ms, hp, hq⟩ := ha
  rw [EnsuresFrom, carryOut_bind]
  -- the second part starts where the path of the first has led
  rcases hr : carryOut a c s with ⟨e | x, t⟩ <;> rw [hr] at hp hq
  · exact ⟨ms, hp, he ms e hq⟩
  · obtain ⟨ns, hp', hs⟩ := hf ms x t hp hr hq
    exact ⟨ms ++ ns, hp.append hp', hs⟩

/-- The rule for a value that may be a fault, from one session. -/
theorem EnsuresFrom.bind_orFault {S : List Move → Except Fault β → Prop} {r : Except Fault α} {f : α → Act σ τ β}
    {s : Session σ τ} (he : ∀ e, r = .error e → S [] (.error e)) (hf : ∀ x, r = .ok x → EnsuresFrom c s S (f x)) :
    EnsuresFrom c s S (Act.orFault r >>= f) := by
  cases r with
  | error e => exact ⟨[], .nil s, he e rfl⟩
  | ok x =>
    rw [EnsuresFrom, carryOut_bind, carryOut_orFault]
    exact hf x rfl

namespace Ensures

variable {Q R : List Move → Except Fault α → Prop} {S : List Move → Except Fault β → Prop}

theorem mono {a : Act σ τ α} (ha : Ensures c Q a) (h : ∀ ms r, Q ms r → R ms r) : Ensures c R a := by
  intro s
  obtain ⟨ms, hp, hq⟩ := ha s
  exact ⟨ms, hp, h _ _ hq⟩

theorem pure {x : α} (h : Q [] (.ok x)) : Ensures c Q (Pure.pure x) := fun s => ⟨[], .nil s, h⟩

theorem throw {e : Fault} (h : Q [] (.error e)) : Ensures c Q (throw e) := fun s => ⟨[], .nil s, h⟩

theorem orFault {r : Except Fault α} (h : Q [] r) : Ensures c Q (Act.orFault r) := by
  intro s
  rw [EnsuresFrom, carryOut_orFault]
  exact ⟨[], .nil s, h⟩

theorem bind {a : Act σ τ α} {f : α → Act σ τ β} (ha : Ensures c Q a)
    (he : ∀ ms e, Q ms (.error e) → S ms (.error e))
    (hf : ∀ ms x, Q ms (.ok x) → Ensures c (fun ns r => S (ms ++ ns) r) (f x)) : Ensures c S (a >>= f) := by
  intro s
  refine .bind (ha s) he ?_
  intro ms x t _ _ hq
  exact hf ms x hq t

theorem attempt {a : Act σ τ α} (ha : Ensures c Q a) :
    Ensures c (fun ms r => ∃ o, r = .ok o ∧ Q ms o) (Act.attempt a) := by
  intro s
  obtain ⟨ms, hp, hq⟩ := ha s
  rw [EnsuresFrom, carryOut_attempt]
  exact ⟨ms, hp, _, rfl, hq⟩

theorem read : Ensures c (fun ms r => ms = [] ∧ r = .ok c) (MonadReader.read : Act σ τ (Clipper σ τ)) :=
  fun s => ⟨[], .nil s, rfl, rfl⟩

theorem get : Ensures c (fun ms r => ms = [] ∧ ∃ s, r = .ok s) (MonadState.get : Act σ τ (Session σ τ)) :=
  fun s => ⟨[], .nil s, rfl, s, rfl⟩

/-- First an action whose faults are caught: what it comes to is taken from there. -/
theorem bind_attempt {a : Act σ τ α} {f : Except Fault α → Act σ τ β} (ha : Ensures c Q a)
    (hf : ∀ ms o, Q ms o → Ensures c (fun ns r => S (ms ++ ns) r) (f o)) : Ensures c S (Act.attempt a >>= f) := by
  refine .bind ha.attempt ?_ ?_
  · rintro _ _ ⟨_, ⟨⟩, _⟩
  · rintro ms o ⟨_, ⟨⟩, hq⟩
    exact hf ms o hq

/-- First a value that may be a fault. -/
theorem bind_orFault {r : Except Fault α} {f : α → Act σ τ β} (he : ∀ e, r = .error e → S [] (.error e))
    (hf : ∀ x, r = .ok x → Ensures c S (f x)) : Ensures c S (Act.orFault r >>= f) := by
  refine .bind (.orFault (Q := fun ms r' => ms = [] ∧ r' = r) ⟨rfl, rfl⟩) ?_ ?_
  · rintro _ e ⟨rfl, h⟩
    exact he e h.symm
  · rintro _ x ⟨rfl, h⟩
    exact hf x h.symm

/-- First one move. -/
theorem bind_move {a : Act σ τ Unit} {m : Move} {f : Unit → Act σ τ β}
    (ha : Ensures c (fun ms r => ms = [m] ∧ r = .ok ()) a)
    (hf : Ensures c (fun ms r => S (m :: ms) r) (f ())) : Ensures c S (a >>= f) := by
  refine .bind ha ?_ ?_
  · rintro _ _ ⟨-, ⟨⟩⟩
  · rintro _ _ ⟨rfl, -⟩
    exact hf

theorem tell (n : Notice) :
    Ensures c (fun ms r => ms = [.told [n]] ∧ r = .ok ()) (Act.tell n : Act σ τ Unit) :=
  fun s => ⟨_, .single (.told s [n]), rfl, rfl⟩

theorem tellAll (ns : List Notice) :
    Ensures c (fun ms r => ms = [.told ns.reverse] ∧ r = .ok ()) (Act.tellAll ns : Act σ τ Unit) :=
  fun s => ⟨_, .single (.told s ns.reverse), rfl, rfl⟩

theorem note (url : String) (state : ImageState) :
    Ensures c (fun ms r => ms = [.noted url state] ∧ r = .ok ()) (Act.note url state : Act σ τ Unit) :=
  fun s => ⟨_, .single (.noted s url state), rfl, rfl⟩

theorem sleep (seconds : Value) :
    Ensures c (fun ms r => ms = [.slept seconds] ∧ r = .ok ()) (Act.sleep seconds : Act σ τ Unit) :=
  fun s => ⟨_, .single (.slept s seconds), rfl, rfl⟩

end Ensures

namespace Does

variable {P : Move → Prop} {Q R : Except Fault α → Prop} {S : Except Fault β → Prop}

theorem mono {a : Act σ τ α} (ha : Does c P Q a) (h : ∀ r, Q r → R r) : Does c P R a :=
  Ensures.mono ha fun _ _ hq => ⟨hq.1, h _ hq.2⟩

/-- What one move does. -/
theorem of_move {a : Act σ τ α} {m : Move} {r : Except Fault α}
    (ha : Ensures c (fun ms r' => ms = [m] ∧ r' = r) a) (hm : P m) (hr : Q r) : Does c P Q a := by
  refine ha.mono ?_
  rintro _ _ ⟨rfl, rfl⟩
  exact ⟨by simpa using hm, hr⟩

theorem pure {x : α} (h : Q (.ok x)) : Does c P Q (Pure.pure x) :=
  Ensures.pure ⟨by simp, h⟩

theorem throw {e : Fault} (h : Q (.error e)) : Does c P Q (throw e) :=
  Ensures.throw ⟨by simp, h⟩

theorem orFault {r : Except Fault α} (h : Q r) : Does c P Q (Act.orFault r) :=
  Ensures.orFault ⟨by simp, h⟩

theorem bind {a : Act σ τ α} {f : α → Act σ τ β} (ha : Does c P Q a) (he : ∀ e, Q (.error e) → S (.error e))
    (hf : ∀ x, Q (.ok x) → Does c P S (f x)) : Does c P S (a >>= f) := by
  refine Ensures.bind ha ?_ ?_
  · intro ms e hq
    exact ⟨hq.1, he e hq.2⟩
  · intro ms x hq
    refine Ensures.mono (hf x hq.2) fun ns r hs => ⟨?_, hs.2⟩
    intro m hm
    exact (List.mem_append.1 hm).elim (hq.1 m) (hs.1 m)

/-- First an action that cannot fail. -/
theorem bind_sure {Q : α → Prop} {a : Act σ τ α} {f : α → Act σ τ β}
    (ha : Does c P (fun r => ∃ x, r = .ok x ∧ Q x) a) (hf : ∀ x, Q x → Does c P S (f x)) :
    Does c P S (a >>= f) := by
  refine .bind ha ?_ ?_
  · rintro _ ⟨_, ⟨⟩, _⟩
  · rintro x ⟨_, ⟨⟩, hx⟩
    exact hf x hx

/-- First an action with only one result. -/
theorem bind_done {a : Act σ τ α} {x : α} {f : α → Act σ τ β} (ha : Does c P (fun r => r = .ok x) a)
    (hf : Does c P S (f x)) : Does c P S (a >>= f) := by
  refine .bind_sure (Q := fun y => y = x) (ha.mono ?_) ?_
  · rintro _ rfl
    exact ⟨x, rfl, rfl⟩
  · rintro _ rfl
    exact hf

theorem attempt {a : Act σ τ α} (ha : Does c P Q a) :
    Does c P (fun r => ∃ o, r = .ok o ∧ Q o) (Act.attempt a) := by
  refine (Ensures.attempt ha).mono ?_
  rintro _ _ ⟨o, hr, hm, hq⟩
  exact ⟨hm, o, hr, hq⟩

theorem read : Does c P (fun r => r = .ok c) (MonadReader.read : Act σ τ (Clipper σ τ)) :=
  Ensures.read.mono fun _ _ ⟨hm, hr⟩ => ⟨by simp [hm], hr⟩

end Does

end WebClip.Act
