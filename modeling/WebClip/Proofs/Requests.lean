import WebClip.Proofs.Actions
import WebClip.Service.Client
/-!
# Requests of a session

A request is refused by the budget, or it is made and its answer decides what comes of it.
Moving a file into an upload is such requests with waits between them and nothing else.
-/

namespace WebClip

/-! ## Results -/

/-- A composite that has a result has it from one of its first part. -/
theorem exists_of_bind {ε α β : Type} {r : Except ε α} {f : α → Except ε β} {y : β} (h : r >>= f = .ok y) :
    ∃ x, r = .ok x ∧ f x = .ok y := by
  cases r with
  | error e => cases h
  | ok x => exact ⟨x, rfl, h⟩

/-- A result that is changed comes from one. -/
theorem exists_of_map {ε α β : Type} {r : Except ε α} {f : α → β} {y : β} (h : r.map f = .ok y) :
    ∃ x, r = .ok x ∧ f x = y := by
  cases r with
  | error e => cases h
  | ok x => exact ⟨x, rfl, Except.ok.inj h⟩

/-! ## Answers -/

/-- What an answer comes to. -/
def Response.outcome {α : Type} (label : String) : Response α → Except Fault α
  | .answer a => .ok a
  | .failure f => .error (f.toFault label)
  | .silence => .error .timedOut

/-- Whether a fault is the error of a page written in part. -/
def Fault.isPartial : Fault → Bool
  | .clip e =>
    match e.kind with
    | .write .. => true
    | _ => false
  | _ => false

/-- A result that is not the error of a page written in part. -/
def NoPartial {α : Type} (r : Except Fault α) : Prop := ∀ e, r = .error e → e.isPartial = false

section NoPartial
variable {α β : Type}

theorem NoPartial.ok (x : α) : NoPartial (.ok x : Except Fault α) := by
  intro e h
  cases h

theorem NoPartial.error {e : Fault} (h : e.isPartial = false) : NoPartial (.error e : Except Fault α) := by
  rintro _ ⟨⟩
  exact h

/-- A fault is the same whatever the value would have been. -/
theorem NoPartial.cast {e : Fault} (h : NoPartial (.error e : Except Fault α)) :
    NoPartial (.error e : Except Fault β) := .error (h e rfl)

/-- A result that is no error of the clipper's own. -/
def NoClip (r : Except Fault α) : Prop := ∀ e, r ≠ .error (.clip e)

namespace NoClip

theorem ok (x : α) : NoClip (.ok x : Except Fault α) := by
  rintro e ⟨⟩

theorem error {f : Fault} (h : ∀ e, f ≠ .clip e) : NoClip (.error f : Except Fault α) := by
  rintro e ⟨⟩
  exact h e rfl

theorem noPartial {r : Except Fault α} (h : NoClip r) : NoPartial r := by
  rintro e rfl
  cases e with
  | clip e => exact absurd rfl (h e)
  | _ => rfl

theorem cast {f : Fault} (h : NoClip (.error f : Except Fault α)) : NoClip (.error f : Except Fault β) := by
  rintro e ⟨⟩
  exact h e rfl

theorem bind {r : Except Fault α} {f : α → Except Fault β} (hr : NoClip r) (hf : ∀ x, NoClip (f x)) :
    NoClip (r >>= f) := by
  cases r with
  | error e => exact hr.cast
  | ok x => exact hf x

theorem mapM {f : α → Except Fault β} {xs : List α} (hf : ∀ x ∈ xs, NoClip (f x)) : NoClip (xs.mapM f) := by
  induction xs with
  | nil => exact .ok []
  | cons x rest ih =>
    obtain ⟨hx, hrest⟩ := List.forall_mem_cons.1 hf
    rw [List.mapM_cons]
    exact .bind hx fun y => .bind (ih hrest) fun ys => .ok _

end NoClip

/-- A result, or an error of the clipper's own. -/
def Settled {α : Type} (r : Except Fault α) : Prop := ∀ f, r = .error f → ∃ e, f = .clip e

namespace Settled

theorem ok (x : α) : Settled (.ok x : Except Fault α) := nofun

theorem clip (e : ClipError) : Settled (.error (.clip e) : Except Fault α) := by
  rintro _ ⟨⟩
  exact ⟨e, rfl⟩

theorem bind {r : Except Fault α} {f : α → Except Fault β} (hr : Settled r) (hf : ∀ x, r = .ok x → Settled (f x)) :
    Settled (r >>= f) := by
  cases r with
  | error e =>
    obtain ⟨e, rfl⟩ := hr e rfl
    exact .clip e
  | ok x => exact hf x rfl

end Settled

end NoPartial

/-! ## Reading replies -/

namespace Reply

theorem noClip_getD (v : Value) (key : String) (default : Value) : NoClip (getD v key default) := by
  unfold getD
  split
  · exact .ok _
  · exact .error nofun

theorem noClip_require (v : Value) (key : String) : NoClip (require v key) := by
  unfold require
  repeat' split
  all_goals first | exact .ok _ | exact .error nofun

theorem noClip_pageUrl (page : Value) : NoClip (pageUrl page) := by
  refine .bind (noClip_getD _ _ _) fun url => ?_
  split
  · exact .ok url
  · refine .bind (noClip_getD _ _ _) fun shared => ?_
    split
    · exact .ok shared
    · refine .bind (noClip_require _ _) fun id => ?_
      split
      · exact .ok _
      · exact .error nofun

end Reply

/-! ## Answers of the outside -/

variable {σ τ : Type}

/-- Neither the service nor a host of images fails with the clipper's own error of a page
written in part. -/
structure Outside.Foreign (o : Outside σ τ) : Prop where
  ask : ∀ r w e, (o.ask r w).1 = .failure (.clip e) → (Fault.clip e).isPartial = false
  fetch : ∀ url w e, (o.fetch url w).1 = .failure (.clip e) → (Fault.clip e).isPartial = false

/-- A result that is the error of a page written in part only if something outside fails with one. -/
def Spares {α : Type} (c : Clipper σ τ) (r : Except Fault α) : Prop := c.outside.Foreign → NoPartial r

theorem NoPartial.spares {α : Type} {c : Clipper σ τ} {r : Except Fault α} (h : NoPartial r) : Spares c r :=
  fun _ => h

theorem Spares.cast {α β : Type} {c : Clipper σ τ} {e : Fault} (h : Spares c (.error e : Except Fault α)) :
    Spares c (.error e : Except Fault β) := fun ho => (h ho).cast

theorem isPartial_ofStatus (status : Int) (text : String) :
    (Fault.clip (.ofStatus status text)).isPartial = false := by
  unfold ClipError.ofStatus
  dsimp only
  repeat' split
  all_goals rfl

theorem noPartial_outcome {o : Outside σ τ} (ho : o.Foreign) (r : Request) (w : σ) :
    NoPartial ((o.ask r w).1.outcome r.label) := by
  cases hr : (o.ask r w).1 with
  | answer a => exact .ok a
  | silence => exact .error rfl
  | failure f =>
    cases f with
    | refused status text => exact .error (isPartial_ofStatus status text)
    | clip e => exact .error (ho.ask r w e hr)
    | _ => exact .error rfl

/-- A budget refuses a request only where its window is full. -/
theorem Budget.of_refused [Sub τ] [LE τ] [DecidableLE τ] [OfNat τ 60] {b : Budget τ} {now : τ} {e : ClipError}
    (h : b.acquire now = .error e) : b.perMinute ≤ (b.expire now).admitted.length ∧ e = b.refusal := by
  unfold acquire at h
  dsimp only at h
  split at h
  next hfull =>
    cases h
    exact ⟨hfull, rfl⟩
  next => cases h

/-! ## Moves that leave pages alone -/

namespace Move

/-- A move of bringing a file into an upload. -/
def OfUpload : Move → Prop
  | told _ | refused | admitted | uploaded .. | slept _ => True
  | _ => False

/-- A move of downloading an image. -/
def OfDownload : Move → Prop
  | told _ | fetched .. => True
  | noted _ state => state ≠ .uploaded
  | _ => False

/-- A move that neither writes to a page nor to the history. -/
def Quiet : Move → Prop
  | asked (.createPage _) _ | asked (.append ..) _ | remembered _ => False
  | _ => True

@[simp] theorem quiet_told (ns : List Notice) : (told ns).Quiet := trivial

@[simp] theorem quiet_noted (url : String) (state : ImageState) : (noted url state).Quiet := trivial

@[simp] theorem quiet_diagnosed (ds : List String) : (diagnosed ds).Quiet := trivial

@[simp] theorem quiet_refused : refused.Quiet := trivial

theorem OfUpload.quiet {m : Move} (h : m.OfUpload) : m.Quiet := by
  cases m <;> first | exact h.elim | trivial

theorem OfDownload.quiet {m : Move} (h : m.OfDownload) : m.Quiet := by
  cases m <;> first | exact h.elim | trivial

end Move

/-- Quiet moves, and no error of a page written in part that does not come from outside. -/
def Harmless {α : Type} (c : Clipper σ τ) (ms : List Move) (r : Except Fault α) : Prop :=
  (∀ m ∈ ms, m.Quiet) ∧ Spares c r

theorem Harmless.append {α : Type} {ms ns : List Move} {r : Except Fault α} (hm : ∀ m ∈ ms, m.Quiet)
    (h : Harmless c ns r) : Harmless c (ms ++ ns) r :=
  ⟨fun m hmem => (List.mem_append.1 hmem).elim (hm m) (h.1 m), h.2⟩

theorem Harmless.cons {α : Type} {m : Move} {ms : List Move} {r : Except Fault α} (hm : m.Quiet)
    (h : Harmless c ms r) : Harmless c (m :: ms) r := ⟨List.forall_mem_cons.2 ⟨hm, h.1⟩, h.2⟩

namespace Act

theorem answerOf_eq {α : Type} (label : String) (r : Response α) :
    (answerOf label r : Act σ τ α) = orFault (r.outcome label) := by
  cases r <;> rfl

variable [Clock τ] (c : Clipper σ τ)

/-! ## Asking -/

theorem carryOut_spend (label : String) (s : Session σ τ) :
    carryOut (spend label) c s = match s.budget.acquire (c.outside.now s.outside) with
      | .ok b => (.ok (), { s with budget := b })
      | .error e =>
        (.error (.clip e),
          { s with
            budget := s.budget.expire (c.outside.now s.outside)
            notices := .warning ("Request budget exhausted (" ++ toString s.budget.perMinute ++
              "/min) before " ++ label) :: s.notices }) := by
  unfold spend
  simp only [carryOut_bind, carryOut_get, carryOut_read]
  cases s.budget.acquire (c.outside.now s.outside) with
  | ok b => rfl
  | error e => simp only [carryOut_bind, carryOut_set, carryOut_tell, carryOut_throw]

variable {c}

theorem kind_of_acquire {b : Budget τ} {now : τ} {e : ClipError} (h : b.acquire now = .error e) :
    e.kind = .rateLimit := by
  rw [(Budget.of_refused h).2]
  rfl

/-- A request is refused by the budget, or it is made and its answer is the result. -/
theorem ask_cases (r : Request) (s : Session σ τ) :
    (∃ e n, s.budget.acquire (c.outside.now s.outside) = .error e ∧
        carryOut (ask r) c s = (.error (.clip e),
          { s with budget := s.budget.expire (c.outside.now s.outside), notices := n :: s.notices })) ∨
      ∃ b, s.budget.acquire (c.outside.now s.outside) = .ok b ∧
        carryOut (ask r) c s = ((c.outside.ask r s.outside).1.outcome r.label,
          { s with budget := b, events := .asked r :: s.events, outside := (c.outside.ask r s.outside).2 }) := by
  rw [ask, carryOut_bind, carryOut_spend]
  cases hb : s.budget.acquire (c.outside.now s.outside) with
  | error e => exact .inl ⟨e, _, rfl, rfl⟩
  | ok b =>
    refine .inr ⟨b, rfl, ?_⟩
    simp only [carryOut_bind, carryOut_log, carryOut_get, carryOut_read, carryOut_set, answerOf_eq, carryOut_orFault]

/-- A request is refused, or it is made and its answer is the result. -/
theorem ask_ensures (r : Request) :
    Ensures c (fun ms res =>
      (∃ ns e, ms = [.refused, .told ns] ∧ res = .error (.clip e) ∧ e.kind = .rateLimit) ∨
        ∃ w, ms = [.asked r (c.outside.ask r w).1] ∧ res = (c.outside.ask r w).1.outcome r.label) (ask r) := by
  intro s
  rw [EnsuresFrom]
  rcases ask_cases (c := c) r s with ⟨e, n, hb, heq⟩ | ⟨b, hb, heq⟩
  · rw [heq]
    exact ⟨_, .cons (.refused s e hb) (.single (.told _ [n])), .inl ⟨_, e, rfl, rfl, kind_of_acquire hb⟩⟩
  · rw [heq]
    exact ⟨_, .single (.asked s b r hb), .inr ⟨s.outside, rfl, rfl⟩⟩

/-- What remains to do with an answer changes nothing. -/
theorem readReply_does (label : String) (r : Response HttpReply) {P : Move → Prop} :
    Does c P (fun _ => True) (do
      let reply ← answerOf label r
      if reply.status < 200 || reply.status ≥ 300 then
        throw (.clip (.ofStatus reply.status (Utf8.lenient reply.body)))
      orFault (Service.decoded reply.body) : Act σ τ Value) := by
  rw [answerOf_eq]
  refine .bind (Q := fun _ => True) (.orFault trivial) (fun _ h => h) fun reply _ => ?_
  split
  · exact .bind (Q := fun _ => True) (.throw trivial) (fun _ h => h) fun _ _ => .orFault trivial
  · exact .orFault trivial

theorem askUpload_does (r : UploadRequest) :
    Does c Move.OfUpload (fun _ => True) (Service.askUpload r) := by
  intro s
  rw [EnsuresFrom, Service.askUpload, carryOut_bind, carryOut_spend]
  cases hb : s.budget.acquire (c.outside.now s.outside) with
  | error e => exact ⟨_, .cons (.refused s e hb) (.single (.told _ [_])), by simp [Move.OfUpload], trivial⟩
  | ok b =>
    simp only [carryOut_bind, carryOut_read]
    cases c.settings.notionVersion.text? with
    | none => exact ⟨_, .single (.admitted s b hb), by simp [Move.OfUpload], trivial⟩
    | some v =>
      have hread := readReply_does (c := c) (P := Move.OfUpload) r.label (c.outside.upload r s.outside).1
      obtain ⟨ms, hp, hm, -⟩ := hread
        { s with budget := b, events := .uploaded r :: s.events, outside := (c.outside.upload r s.outside).2 }
      refine ⟨_, .cons (.uploaded s b r hb) hp, ?_, trivial⟩
      simpa [Move.OfUpload] using hm

theorem fetch_ensures (url : String) :
    Ensures c (fun ms r => ∃ w, ms = [.fetched url (c.outside.fetch url w).1] ∧
      r = .ok (c.outside.fetch url w).1) (fetch url) := by
  intro s
  rw [EnsuresFrom, fetch]
  simp only [carryOut_bind, carryOut_log, carryOut_get, carryOut_read, carryOut_set, carryOut_pure]
  exact ⟨_, .single (.fetched s url), s.outside, rfl, rfl⟩

/-! ## Bringing a file into an upload -/

theorem createUpload_does (fileName contentType : String) :
    Does c Move.OfUpload (fun _ => True) (Service.createUpload fileName contentType) :=
  .bind (askUpload_does _) (fun _ h => h) fun _ _ => .orFault trivial

theorem sendUpload_does (u : Service.Upload) (fileName contentType : String) (content : ByteArray) :
    Does c Move.OfUpload (fun _ => True) (Service.sendUpload u fileName contentType content) :=
  .bind (askUpload_does _) (fun _ h => h) fun _ _ => .orFault trivial

theorem sleep_does (seconds : Value) : Does c Move.OfUpload (fun _ => True) (sleep seconds) :=
  .of_move (Ensures.sleep seconds) trivial trivial

theorem poll_does (interval : Value) (n : Nat) (u : Service.Upload) :
    Does c Move.OfUpload (fun _ => True) (Service.poll interval n u) := by
  induction n generalizing u with
  | zero => exact .pure trivial
  | succ n ih =>
    rw [Service.poll]
    split
    · exact .pure trivial
    · refine .bind (sleep_does interval) (fun _ h => h) fun _ _ => ?_
      refine .bind (askUpload_does _) (fun _ h => h) fun reply _ => ?_
      exact .bind (Q := fun _ => True) (.orFault trivial) (fun _ h => h) fun u _ => ih u

theorem upload_does (url fileName contentType : String) (content : ByteArray) :
    Does c Move.OfUpload (fun _ => True) (Service.upload url fileName contentType content) := by
  unfold Service.upload
  refine .bind (createUpload_does _ _) (fun _ h => h) fun u _ => ?_
  refine .bind (sendUpload_does u _ _ _) (fun _ h => h) fun u _ => ?_
  refine .bind .read (fun _ _ => trivial) fun c' _ => ?_
  have hend (n : Nat) : Does c Move.OfUpload (fun _ => True) (do
      let u ← Service.poll c'.settings.uploadPollInterval n u
      if u.isDone then pure u.id
      else throw (.clip (.make (.upload url) ("Upload " ++ u.id.display ++ " not confirmed (status=" ++
        u.status.display ++ ")"))) : Act σ τ Value) := by
    refine .bind (poll_does _ n u) (fun _ h => h) fun u _ => ?_
    split
    · exact .pure trivial
    · exact .throw trivial
  split
  · exact hend 0
  · exact .bind (Q := fun _ => True) (.orFault trivial) (fun _ h => h) fun n _ => hend n

end Act

end WebClip
