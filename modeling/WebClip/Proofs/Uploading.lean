import WebClip.Proofs.Fates
/-!
# How an upload is confirmed

A file is moved into an upload by a request that makes it, one that sends the file, and polls of the
upload's status with a wait before each. The polls go on until the status says that the file has arrived or
never will, or until there have been as many as there may be. Only a file that has arrived has an id, and
the first request that fails ends it.
-/

namespace WebClip

open Act

variable {σ τ : Type} [Clock τ]

namespace Service

/-! ## Requests about uploads -/

/-- What the response to a request about an upload comes to. -/
def readResponse (label : String) (a : Response HttpReply) : Except Fault Value := do
  let reply ← a.outcome label
  if reply.status < 200 || reply.status ≥ 300 then
    throw (.clip (.ofStatus reply.status (Utf8.lenient reply.body)))
  decoded reply.body

/-- What a request about an upload comes to, and the session that it leaves. -/
inductive Requested (c : Clipper σ τ) (r : UploadRequest) (s : Session σ τ) : Except Fault Value × Session σ τ → Prop
  /-- The budget refuses it, and it is not sent. -/
  | refused {e : ClipError} (n : Notice) : s.budget.acquire (c.outside.now s.outside) = .error e →
    Requested c r s (.error (.clip e),
      { s with budget := s.budget.expire (c.outside.now s.outside), notices := n :: s.notices })
  /-- There is no version of the service to name, and it is not sent. -/
  | unversioned {b : Budget τ} : c.settings.notionVersion.text? = none →
    s.budget.acquire (c.outside.now s.outside) = .ok b →
    Requested c r s (.error (.wrongKind "no version"), { s with budget := b })
  /-- It is sent, and comes to what is responded. -/
  | sent {b : Budget τ} : s.budget.acquire (c.outside.now s.outside) = .ok b →
    Requested c r s (readResponse r.label (c.outside.upload r s.outside).1,
      { s with budget := b, events := .uploaded r :: s.events, outside := (c.outside.upload r s.outside).2 })

variable {c : Clipper σ τ}

omit [Clock τ] in
theorem carryOut_readResponse (label : String) (a : Response HttpReply) (s : Session σ τ) :
    carryOut (do
      let reply ← answerOf label a
      if reply.status < 200 || reply.status ≥ 300 then
        throw (.clip (.ofStatus reply.status (Utf8.lenient reply.body)))
      orFault (decoded reply.body) : Act σ τ Value) c s = (readResponse label a, s) := by
  rw [answerOf_eq, carryOut_bind, carryOut_orFault, readResponse]
  cases a.outcome label with
  | error e => rfl
  | ok reply =>
    dsimp only [bind, Except.bind]
    split
    · rfl
    · exact carryOut_orFault c s _

theorem askUpload_requested (r : UploadRequest) (s : Session σ τ) :
    Requested c r s (carryOut (askUpload r) c s) := by
  rw [askUpload, carryOut_bind, carryOut_spend]
  cases hb : s.budget.acquire (c.outside.now s.outside) with
  | error e => exact .refused _ hb
  | ok b =>
    have hread := carryOut_readResponse (c := c) r.label (c.outside.upload r s.outside).1
      { s with budget := b, events := .uploaded r :: s.events, outside := (c.outside.upload r s.outside).2 }
    simp only [carryOut_bind] at hread
    cases hv : c.settings.notionVersion.text? with
    | none =>
      simp only [carryOut_bind, carryOut_read, hv, Option.isNone_none, if_true, carryOut_throw]
      exact .unversioned hv hb
    | some version =>
      simp only [carryOut_bind, carryOut_read, hv, Option.isNone_some, Bool.false_eq_true, if_false, carryOut_log,
        carryOut_get, carryOut_set]
      rw [hread]
      exact .sent hb

/-- A request that has a reply has been sent. -/
theorem Requested.events_of_ok {r : UploadRequest} {s : Session σ τ} {reply : Value} {t : Session σ τ}
    (h : Requested c r s (.ok reply, t)) : t.events = .uploaded r :: s.events := by
  generalize ho : (Except.ok reply, t) = o at h
  cases h with
  | refused | unversioned => cases ho
  | sent => rw [(Prod.mk.inj ho).2]

/-- A request is sent at most once. -/
theorem Requested.events {r : UploadRequest} {s : Session σ τ} {o : Except Fault Value × Session σ τ}
    (h : Requested c r s o) : ∃ log, log <:+ [Event.uploaded r] ∧ o.2.events = log ++ s.events := by
  cases h with
  | refused | unversioned => exact ⟨[], List.nil_suffix, rfl⟩
  | sent => exact ⟨_, List.suffix_refl _, rfl⟩

/-! ## Statuses -/

/-- The status after a reply: the one that it gives, or else the one before. -/
def statusBy (previous reply : Value) : Value := (reply.field? "status").getD previous

/-- By this status the file has arrived. -/
def Arrived (status : Value) : Prop := status.text? = some "uploaded"

/-- By this status the file will never arrive. -/
def Lost (status : Value) : Prop := status.text? = some "failed"

instance : DecidablePred Arrived := fun status => inferInstanceAs (Decidable (status.text? = some "uploaded"))

instance : DecidablePred Lost := fun status => inferInstanceAs (Decidable (status.text? = some "failed"))

/-- A reply changes nothing but the status. -/
theorem withStatus_id {u u' : Upload} {reply : Value} (h : withStatus u reply = .ok u') : u'.id = u.id := by
  obtain ⟨status, -, heq⟩ := exists_of_bind h
  cases heq
  rfl

theorem withStatus_record (u : Upload) (fields : List (String × Value)) :
    withStatus u (.record fields) = .ok { u with status := statusBy u.status (.record fields) } := rfl

/-! ## Polls -/

/-- Wait, and ask for the status of an upload. -/
def pollOnce (interval id : Value) : Act σ τ Value := do
  sleep interval
  askUpload (.retrieve id)

section Polls

variable (c) (id : Value) (t : Session σ τ)

/-- The session after so many polls. -/
def pollSession : Nat → Session σ τ
  | 0 => t
  | k + 1 => (carryOut (pollOnce c.settings.uploadPollInterval id) c (pollSession k)).2

/-- What the poll after so many others comes to. -/
def pollReply (k : Nat) : Except Fault Value :=
  (carryOut (pollOnce c.settings.uploadPollInterval id) c (pollSession c id t k)).1

/-- The status after so many polls. -/
def statusAfter (first : Value) : Nat → Value
  | 0 => first
  | k + 1 =>
    match pollReply c id t k with
    | .error _ => statusAfter first k
    | .ok reply => statusBy (statusAfter first k) reply

/-- So many polls are made: each is answered by a record, and until the last of them the status has left it open
whether the file arrives. -/
structure Waits (first : Value) (k : Nat) : Prop where
  answered : ∀ j < k, ∃ fields, pollReply c id t j = .ok (.record fields)
  undecided : ∀ j < k, ¬ Arrived (statusAfter c id t first j) ∧ ¬ Lost (statusAfter c id t first j)

variable {c id t} {first : Value} {n k : Nat}

theorem Waits.zero : Waits c id t first 0 := ⟨nofun, nofun⟩

theorem Waits.succ (h : Waits c id t first k) (hreply : ∃ fields, pollReply c id t k = .ok (.record fields))
    (hopen : ¬ Arrived (statusAfter c id t first k) ∧ ¬ Lost (statusAfter c id t first k)) :
    Waits c id t first (k + 1) := by
  constructor
  · intro j hj
    rcases Nat.lt_succ_iff_lt_or_eq.1 hj with hj | rfl
    · exact h.answered j hj
    · exact hreply
  · intro j hj
    rcases Nat.lt_succ_iff_lt_or_eq.1 hj with hj | rfl
    · exact h.undecided j hj
    · exact hopen

theorem Waits.mono (h : Waits c id t first n) (hk : k ≤ n) : Waits c id t first k :=
  ⟨fun j hj => h.answered j (Nat.lt_of_lt_of_le hj hk), fun j hj => h.undecided j (Nat.lt_of_lt_of_le hj hk)⟩

/-- Polls end where the status says whether the file arrives, or where there are none left. -/
theorem poll_end (interval : Value) (u : Upload) (h : n = 0 ∨ Arrived u.status ∨ Lost u.status) :
    carryOut (poll interval n u) c t = (.ok u, t) := by
  cases n with
  | zero => rfl
  | succ n =>
    have hdecided : (u.isDone || u.hasFailed) = true := by
      simpa [Upload.isDone, Upload.hasFailed, Arrived, Lost] using h
    rw [poll, if_pos hdecided]
    rfl

/-- Else there is a poll, and what it comes to decides how polling goes on. -/
theorem poll_succ {interval : Value} {u : Upload} (h : ¬ Arrived u.status ∧ ¬ Lost u.status) (n : Nat) :
    carryOut (poll interval (n + 1) u) c t = match carryOut (pollOnce interval u.id) c t with
      | (.error e, t') => (.error e, t')
      | (.ok reply, t') =>
        match withStatus u reply with
        | .error e => (.error e, t')
        | .ok u' => carryOut (poll interval n u') c t' := by
  have hopen : ¬ (u.isDone || u.hasFailed) = true := by
    simpa [Upload.isDone, Upload.hasFailed, Arrived, Lost] using h
  rw [poll, if_neg hopen, pollOnce, carryOut_bind, carryOut_bind]
  rcases carryOut (sleep interval) c t with ⟨e | x, t'⟩
  · rfl
  · dsimp only
    rw [carryOut_bind]
    rcases carryOut (askUpload (.retrieve u.id)) c t' with ⟨e | reply, t''⟩
    · rfl
    · dsimp only
      rw [carryOut_bind, carryOut_orFault]
      rcases withStatus u reply with e | u'
      · rfl
      · rfl

/-- A poll, by what it comes to and the session after it. -/
theorem carryOut_pollOnce (k : Nat) :
    carryOut (pollOnce c.settings.uploadPollInterval id) c (pollSession c id t k) =
      (pollReply c id t k, pollSession c id t (k + 1)) := rfl

theorem statusAfter_succ {fields : List (String × Value)} (h : pollReply c id t k = .ok (.record fields)) :
    statusAfter c id t first (k + 1) = statusBy (statusAfter c id t first k) (.record fields) := by
  rw [statusAfter, h]

/-- While the polls that are made leave it open whether the file arrives, polling goes on. -/
theorem poll_waits (h : Waits c id t first k) (hk : k ≤ n) :
    carryOut (poll c.settings.uploadPollInterval n ⟨id, first⟩) c t =
      carryOut (poll c.settings.uploadPollInterval (n - k) ⟨id, statusAfter c id t first k⟩) c
        (pollSession c id t k) := by
  -- by the polls made, of which the last takes one from those left
  induction k with
  | zero => rfl
  | succ k ih =>
    obtain ⟨fields, hreply⟩ := h.answered k (Nat.lt_succ_self k)
    have hleft : n - k = n - (k + 1) + 1 := by omega
    rw [ih (h.mono (Nat.le_succ k)) (by omega), hleft, poll_succ (h.undecided k (Nat.lt_succ_self k)),
      statusAfter_succ hreply, carryOut_pollOnce, hreply]
    dsimp only
    rw [withStatus_record]

/-- A poll that fails ends polling. -/
theorem poll_fails (h : Waits c id t first k) (hk : k < n)
    (hopen : ¬ Arrived (statusAfter c id t first k) ∧ ¬ Lost (statusAfter c id t first k)) {e : Fault}
    (hreply : pollReply c id t k = .error e) :
    carryOut (poll c.settings.uploadPollInterval n ⟨id, first⟩) c t = (.error e, pollSession c id t (k + 1)) := by
  have hleft : n - k = n - (k + 1) + 1 := by omega
  rw [poll_waits h (Nat.le_of_lt hk), hleft, poll_succ hopen, carryOut_pollOnce, hreply]

/-- Polling stops: no poll is left, or the status says whether the file arrives, or there is no record to read
one from. -/
theorem exists_waits (c : Clipper σ τ) (id : Value) (t : Session σ τ) (first : Value) (n : Nat) :
    ∃ k ≤ n, Waits c id t first k ∧
      (k = n ∨ Arrived (statusAfter c id t first k) ∨ Lost (statusAfter c id t first k) ∨
        ∀ fields, pollReply c id t k ≠ .ok (.record fields)) := by
  induction n with
  | zero => exact ⟨0, Nat.le_refl 0, .zero, .inl rfl⟩
  | succ n ih =>
    obtain ⟨k, hk, hwaits, rfl | hstop⟩ := ih
    · -- polls had only come to the end of their number, and now there is one more
      by_cases harrived : Arrived (statusAfter c id t first k)
      · exact ⟨k, Nat.le_succ k, hwaits, .inr (.inl harrived)⟩
      by_cases hlost : Lost (statusAfter c id t first k)
      · exact ⟨k, Nat.le_succ k, hwaits, .inr (.inr (.inl hlost))⟩
      by_cases hreply : ∃ fields, pollReply c id t k = .ok (.record fields)
      · exact ⟨k + 1, Nat.le_refl _, hwaits.succ hreply ⟨harrived, hlost⟩, .inl rfl⟩
      · exact ⟨k, Nat.le_succ k, hwaits, .inr (.inr (.inr (not_exists.1 hreply)))⟩
    · exact ⟨k, Nat.le_succ_of_le hk, hwaits, .inr hstop⟩

/-- Where every poll would be answered by a record, they stop for one of the other reasons. -/
theorem exists_stop (hreplies : ∀ j < n, ∃ fields, pollReply c id t j = .ok (.record fields)) (first : Value) :
    ∃ k ≤ n, Waits c id t first k ∧
      (k = n ∨ Arrived (statusAfter c id t first k) ∨ Lost (statusAfter c id t first k)) := by
  obtain ⟨k, hk, hwaits, hstop | hstop | hstop | hstop⟩ := exists_waits c id t first n
  · exact ⟨k, hk, hwaits, .inl hstop⟩
  · exact ⟨k, hk, hwaits, .inr (.inl hstop)⟩
  · exact ⟨k, hk, hwaits, .inr (.inr hstop)⟩
  · rcases Nat.lt_or_eq_of_le hk with hlt | heq
    · obtain ⟨fields, hreply⟩ := hreplies k hlt
      exact absurd hreply (hstop fields)
    · exact ⟨k, hk, hwaits, .inl heq⟩

/-- Where the file has arrived after some poll and no status before it was the end, the polls up to the first
status by which it has arrived are made. -/
theorem exists_arrived (hreplies : ∀ j < n, ∃ fields, pollReply c id t j = .ok (.record fields)) (hk : k ≤ n)
    (harrived : Arrived (statusAfter c id t first k)) (hlost : ∀ j < k, ¬ Lost (statusAfter c id t first j)) :
    ∃ m ≤ k, Waits c id t first m ∧ Arrived (statusAfter c id t first m) := by
  obtain ⟨m, hm, hwaits, rfl | hstop | hstop⟩ :=
    exists_stop (fun j hj => hreplies j (Nat.lt_of_lt_of_le hj hk)) first
  · exact ⟨m, hm, hwaits, harrived⟩
  · exact ⟨m, hm, hwaits, hstop⟩
  · rcases Nat.lt_or_eq_of_le hm with hlt | rfl
    · exact absurd hstop (hlost m hlt)
    · exact ⟨m, hm, hwaits, harrived⟩

end Polls

/-! ## The log of the polls -/

section Log

variable {id interval : Value} {k n : Nat}

/-- The log of so many polls, the last one first. -/
def pollEvents (interval id : Value) : Nat → List Event
  | 0 => []
  | k + 1 => pollEvents interval id k ++ [.uploaded (.retrieve id), .slept interval]

theorem pollEvents_succ' (interval id : Value) (k : Nat) :
    pollEvents interval id (k + 1) = [.uploaded (.retrieve id), .slept interval] ++ pollEvents interval id k := by
  induction k with
  | zero => rfl
  | succ k ih =>
    calc pollEvents interval id (k + 1) ++ [.uploaded (.retrieve id), .slept interval]
        = [.uploaded (.retrieve id), .slept interval] ++ pollEvents interval id k ++
            [.uploaded (.retrieve id), .slept interval] := by rw [ih]
      _ = [.uploaded (.retrieve id), .slept interval] ++ pollEvents interval id (k + 1) := by
        rw [List.append_assoc, pollEvents]

/-- The session after a wait. -/
def slept (s : Session σ τ) (interval : Value) : Session σ τ :=
  { s with events := .slept interval :: s.events }

theorem pollOnce_requested (interval id : Value) (s : Session σ τ) :
    Requested c (.retrieve id) (slept s interval) (carryOut (pollOnce interval id) c s) := by
  rw [pollOnce, carryOut_bind, sleep, carryOut_log]
  exact askUpload_requested _ _

/-- Each poll that is answered is logged, with the wait before it. -/
theorem pollSession_events {t : Session σ τ} (hreplies : ∀ j < k, ∃ reply, pollReply c id t j = .ok reply) :
    (pollSession c id t k).events = pollEvents c.settings.uploadPollInterval id k ++ t.events := by
  induction k with
  | zero => rfl
  | succ k ih =>
    obtain ⟨reply, hreply⟩ := hreplies k (Nat.lt_succ_self k)
    have hrequested := pollOnce_requested (c := c) c.settings.uploadPollInterval id (pollSession c id t k)
    rw [carryOut_pollOnce, hreply] at hrequested
    rw [hrequested.events_of_ok, slept, ih fun j hj => hreplies j (Nat.lt_succ_of_lt hj), pollEvents_succ']
    rfl

/-- No more polls are made than there may be, and nothing else is done between them than waiting. -/
theorem poll_events (interval : Value) (n : Nat) (u : Upload) (t : Session σ τ) :
    ∃ log, log <:+ pollEvents interval u.id n ∧ (carryOut (poll interval n u) c t).2.events = log ++ t.events := by
  induction n generalizing u t with
  | zero => exact ⟨[], List.nil_suffix, rfl⟩
  | succ n ih =>
    by_cases hdecided : Arrived u.status ∨ Lost u.status
    · rw [poll_end interval u (.inr hdecided)]
      exact ⟨[], List.nil_suffix, rfl⟩
    · have hrequested := pollOnce_requested (c := c) interval u.id t
      obtain ⟨log, hlog, hevents⟩ := hrequested.events
      rw [poll_succ (not_or.1 hdecided), pollEvents]
      generalize carryOut (pollOnce interval u.id) c t = p at hrequested hevents ⊢
      rcases p with ⟨e | reply, t'⟩
      · -- a poll that the budget refuses leaves its wait in the log
        refine ⟨log ++ [.slept interval], ?_, by rw [List.append_assoc]; exact hevents⟩
        exact (List.suffix_append_self_iff.2 hlog).trans (List.suffix_append _ _)
      · have hsent := hrequested.events_of_ok
        dsimp only
        cases hstatus : withStatus u reply with
        | error e => exact ⟨_, List.suffix_append _ _, hsent⟩
        | ok u' =>
          obtain ⟨rest, hrest, hend⟩ := ih u' t'
          rw [withStatus_id hstatus] at hrest
          refine ⟨rest ++ [.uploaded (.retrieve u.id), .slept interval], ?_, ?_⟩
          · exact List.suffix_append_self_iff.2 hrest
          · rw [hend, hsent, List.append_assoc]
            rfl

end Log

/-! ## The end of an upload -/

/-- The error of an upload whose file is not known to have arrived. -/
def notConfirmed (url : String) (id status : Value) : Fault :=
  .clip (.make (.upload url) ("Upload " ++ id.display ++ " not confirmed (status=" ++ status.display ++ ")"))

/-- What an upload comes to that has its file: `first` is its status at the session `t`, and there may be as many
as `n` polls. -/
structure Concludes (c : Clipper σ τ) (url : String) (id first : Value) (n : Nat) (t : Session σ τ)
    (o : Except Fault Value × Session σ τ) : Prop where
  /-- The first status by which the file has arrived ends it with the id. -/
  arrived : ∀ k ≤ n, Waits c id t first k → Arrived (statusAfter c id t first k) →
    o = (.ok id, pollSession c id t k)
  /-- One by which it never will, or the last there may be, ends it with an error. -/
  unconfirmed : ∀ k ≤ n, Waits c id t first k → ¬ Arrived (statusAfter c id t first k) →
    k = n ∨ Lost (statusAfter c id t first k) →
    o = (.error (notConfirmed url id (statusAfter c id t first k)), pollSession c id t k)
  /-- A poll that fails ends it with its own error. -/
  failed : ∀ k < n, Waits c id t first k →
    ¬ Arrived (statusAfter c id t first k) ∧ ¬ Lost (statusAfter c id t first k) →
    ∀ e, pollReply c id t k = .error e → o = (.error e, pollSession c id t (k + 1))
  /-- Where every poll would be answered by a record, it has the id exactly if the file arrives in time and is not
  lost before. -/
  returns_iff : (∀ k < n, ∃ fields, pollReply c id t k = .ok (.record fields)) →
    (o.1 = .ok id ↔ ∃ k ≤ n, Arrived (statusAfter c id t first k) ∧ ∀ j < k, ¬ Lost (statusAfter c id t first j))
  /-- Else there is that error. -/
  confirmed : (∀ k < n, ∃ fields, pollReply c id t k = .ok (.record fields)) →
    o.1 = .ok id ∨ ∃ status, o.1 = .error (notConfirmed url id status)
  /-- A poll is a request for the status, made after a wait. -/
  polled : ∀ k, Requested c (.retrieve id) (slept (pollSession c id t k) c.settings.uploadPollInterval)
    (pollReply c id t k, pollSession c id t (k + 1))
  /-- Polls that are made are logged. -/
  counted : ∀ k, Waits c id t first k →
    (pollSession c id t k).events = pollEvents c.settings.uploadPollInterval id k ++ t.events
  /-- There are no more of them than there may be, and no other requests. -/
  bounded : ∃ log, log <:+ pollEvents c.settings.uploadPollInterval id n ∧ o.2.events = log ++ t.events

/-- The id of an upload, if the file has arrived. -/
def confirm (url : String) (u : Upload) : Except Fault Value :=
  if Arrived u.status then .ok u.id else .error (notConfirmed url u.id u.status)

section Uploads

variable {n : Nat} {url : String} {id first : Value} {t : Session σ τ}

/-- The polls of an upload, and its id. -/
def pollAndConfirm (url : String) (interval : Value) (n : Nat) (u : Upload) : Act σ τ Value := do
  orFault (confirm url (← poll interval n u))

theorem carryOut_pollAndConfirm (url : String) (interval : Value) (n : Nat) (u : Upload) (t : Session σ τ) :
    carryOut (pollAndConfirm url interval n u) c t =
      ((carryOut (poll interval n u) c t).1 >>= confirm url, (carryOut (poll interval n u) c t).2) := by
  rw [pollAndConfirm, carryOut_bind]
  rcases carryOut (poll interval n u) c t with ⟨e | u', t'⟩
  · rfl
  · exact carryOut_orFault c t' _

theorem pollAndConfirm_concludes (url : String) (id first : Value) (n : Nat) (t : Session σ τ) :
    Concludes c url id first n t
      (carryOut (pollAndConfirm url c.settings.uploadPollInterval n ⟨id, first⟩) c t) := by
  have harrived : ∀ k ≤ n, Waits c id t first k → Arrived (statusAfter c id t first k) →
      carryOut (pollAndConfirm url c.settings.uploadPollInterval n ⟨id, first⟩) c t =
        (.ok id, pollSession c id t k) := by
    intro k hk hwaits harrived
    rw [carryOut_pollAndConfirm, poll_waits hwaits hk, poll_end _ _ (.inr (.inl harrived))]
    simp only [bind, Except.bind, confirm, if_pos harrived]
  have hunconfirmed : ∀ k ≤ n, Waits c id t first k → ¬ Arrived (statusAfter c id t first k) →
      k = n ∨ Lost (statusAfter c id t first k) →
      carryOut (pollAndConfirm url c.settings.uploadPollInterval n ⟨id, first⟩) c t =
        (.error (notConfirmed url id (statusAfter c id t first k)), pollSession c id t k) := by
    intro k hk hwaits hnot hend
    have hstop : n - k = 0 ∨ Arrived (statusAfter c id t first k) ∨ Lost (statusAfter c id t first k) :=
      hend.imp (fun heq => by omega) .inr
    rw [carryOut_pollAndConfirm, poll_waits hwaits hk, poll_end _ _ hstop]
    simp only [bind, Except.bind, confirm, if_neg hnot]
  -- where polls stop for good, the file has arrived or it is an error
  have hends : (∀ k < n, ∃ fields, pollReply c id t k = .ok (.record fields)) → ∃ k ≤ n, Waits c id t first k ∧
      (Arrived (statusAfter c id t first k) ∨
        carryOut (pollAndConfirm url c.settings.uploadPollInterval n ⟨id, first⟩) c t =
          (.error (notConfirmed url id (statusAfter c id t first k)), pollSession c id t k)) := by
    intro hreplies
    obtain ⟨k, hk, hwaits, hstop⟩ := exists_stop hreplies first
    by_cases harr : Arrived (statusAfter c id t first k)
    · exact ⟨k, hk, hwaits, .inl harr⟩
    · exact ⟨k, hk, hwaits, .inr (hunconfirmed k hk hwaits harr (hstop.imp_right fun h => h.resolve_left harr))⟩
  refine ⟨harrived, hunconfirmed, ?failed, ?returns_iff, ?confirmed, ?polled, ?counted, ?bounded⟩
  case failed =>
    intro k hk hwaits hopen e hreply
    rw [carryOut_pollAndConfirm, poll_fails hwaits hk hopen hreply]
    rfl
  case returns_iff =>
    intro hreplies
    constructor
    · intro hok
      obtain ⟨k, hk, hwaits, harr | herr⟩ := hends hreplies
      · exact ⟨k, hk, harr, fun j hj => (hwaits.undecided j hj).2⟩
      · rw [herr] at hok
        cases hok
    · rintro ⟨k, hk, harr, hlost⟩
      obtain ⟨m, hm, hwaits, hfirst⟩ := exists_arrived hreplies hk harr hlost
      rw [harrived m (Nat.le_trans hm hk) hwaits hfirst]
  case confirmed =>
    intro hreplies
    obtain ⟨k, hk, hwaits, harr | herr⟩ := hends hreplies
    · rw [harrived k hk hwaits harr]
      exact .inl rfl
    · rw [herr]
      exact .inr ⟨_, rfl⟩
  case polled => exact fun k => pollOnce_requested _ _ _
  case counted =>
    intro k hwaits
    refine pollSession_events fun j hj => ?_
    obtain ⟨fields, hreply⟩ := hwaits.answered j hj
    exact ⟨_, hreply⟩
  case bounded =>
    rw [carryOut_pollAndConfirm]
    exact poll_events _ n ⟨id, first⟩ t

theorem isDone_iff (u : Upload) : u.isDone = true ↔ Arrived u.status := by
  simp [Upload.isDone, Arrived]

/-- What is done once the file is sent. -/
theorem carryOut_sent {n : Int} (hn : c.settings.uploadPollAttempts = .int n) (url : String) (u : Upload)
    (t : Session σ τ) :
    carryOut (do
      let settings := (← read).settings
      let attempts ← if u.isDone then pure 0 else orFault (pollAttempts settings.uploadPollAttempts)
      let u ← poll settings.uploadPollInterval attempts u
      if u.isDone then pure u.id
      else throw (.clip (.make (.upload url) ("Upload " ++ u.id.display ++ " not confirmed (status=" ++
        u.status.display ++ ")"))) : Act σ τ Value) c t =
      carryOut (pollAndConfirm url c.settings.uploadPollInterval n.toNat u) c t := by
  rw [carryOut_pollAndConfirm, carryOut_bind, carryOut_read]
  dsimp only
  by_cases hdone : u.isDone = true
  · -- the settings are not asked for a number of polls, but with any of them there would be none
    rw [if_pos hdone, poll_end _ u (.inr (.inl ((isDone_iff u).1 hdone))), carryOut_bind, carryOut_pure]
    dsimp only
    rw [carryOut_bind, poll_end _ u (.inl rfl)]
    simp only [bind, Except.bind, confirm, if_pos hdone, if_pos ((isDone_iff u).1 hdone), carryOut_pure]
  · rw [if_neg hdone, hn, pollAttempts, carryOut_bind, carryOut_orFault]
    dsimp only
    rw [carryOut_bind]
    rcases carryOut (poll c.settings.uploadPollInterval n.toNat u) c t with ⟨e | u', t'⟩
    · rfl
    · simp only [bind, Except.bind, confirm, ← isDone_iff]
      split
      · rfl
      · rfl

section Steps

variable {fileName type : String} {content : ByteArray} {s : Session σ τ} {reply : List (String × Value)} {e : Fault}

theorem createUpload_error (h : carryOut (askUpload (.create fileName type)) c s = (.error e, t)) :
    carryOut (createUpload fileName type) c s = (.error e, t) := by
  rw [createUpload, carryOut_bind, h]

theorem createUpload_record (h : carryOut (askUpload (.create fileName type)) c s = (.ok (.record reply), t))
    (hid : reply.lookup "id" = some id) :
    carryOut (createUpload fileName type) c s = (.ok ⟨id, statusBy (.text "pending") (.record reply)⟩, t) := by
  rw [createUpload, carryOut_bind, h]
  simp only [carryOut_orFault, Reply.require, hid, bind, Except.bind]
  rw [withStatus_record]

theorem sendUpload_error {u : Upload}
    (h : carryOut (askUpload (.send u.id fileName type content)) c s = (.error e, t)) :
    carryOut (sendUpload u fileName type content) c s = (.error e, t) := by
  rw [sendUpload, carryOut_bind, h]

theorem sendUpload_record {u : Upload}
    (h : carryOut (askUpload (.send u.id fileName type content)) c s = (.ok (.record reply), t)) :
    carryOut (sendUpload u fileName type content) c s =
      (.ok { u with status := statusBy u.status (.record reply) }, t) := by
  rw [sendUpload, carryOut_bind, h]
  dsimp only
  rw [carryOut_orFault, withStatus_record]

/-- An upload whose settings say how often to ask for its status, once it is made. -/
theorem upload_made {n : Int} (hn : c.settings.uploadPollAttempts = .int n) {u : Upload}
    (h : carryOut (createUpload fileName type) c s = (.ok u, t)) :
    carryOut (upload url fileName type content) c s =
      match carryOut (sendUpload u fileName type content) c t with
      | (.error e, t') => (.error e, t')
      | (.ok u', t') => carryOut (pollAndConfirm url c.settings.uploadPollInterval n.toNat u') c t' := by
  rw [upload, carryOut_bind, h]
  dsimp only
  rw [carryOut_bind]
  rcases carryOut (sendUpload u fileName type content) c t with ⟨e | u', t'⟩
  · rfl
  · exact carryOut_sent hn url u' t'

/-- What becomes of the content of a file that is moved into an upload: `n` is how often to ask for its status. -/
structure Confirms (c : Clipper σ τ) (url fileName type : String) (content : ByteArray) (n : Int) (s : Session σ τ)
    (run : Except Fault Value × Session σ τ) : Prop where
  /-- The first request is for the upload. -/
  creates : Requested c (.create fileName type) s (carryOut (askUpload (.create fileName type)) c s)
  /-- If it fails, there is no other. -/
  uncreated : ∀ e t, carryOut (askUpload (.create fileName type)) c s = (.error e, t) → run = (.error e, t)
  /-- The second sends the file. -/
  sends : ∀ reply id t, carryOut (askUpload (.create fileName type)) c s = (.ok (.record reply), t) →
    reply.lookup "id" = some id →
    t.events = .uploaded (.create fileName type) :: s.events ∧
      Requested c (.send id fileName type content) t (carryOut (askUpload (.send id fileName type content)) c t)
  /-- If it fails, there is no other. -/
  unsent : ∀ reply id t, carryOut (askUpload (.create fileName type)) c s = (.ok (.record reply), t) →
    reply.lookup "id" = some id →
    ∀ e t', carryOut (askUpload (.send id fileName type content)) c t = (.error e, t') → run = (.error e, t')
  /-- The others are polls. -/
  polls : ∀ reply id t, carryOut (askUpload (.create fileName type)) c s = (.ok (.record reply), t) →
    reply.lookup "id" = some id →
    ∀ fields t', carryOut (askUpload (.send id fileName type content)) c t = (.ok (.record fields), t') →
      t'.events = .uploaded (.send id fileName type content) :: t.events ∧
        Concludes c url id (statusBy (statusBy (.text "pending") (.record reply)) (.record fields)) n.toNat t' run

/-- An upload returns the id of an upload whose file has arrived, and otherwise ends in an error. It makes the upload
and sends the file once each, and then asks for the status no more often than the settings say. The first request
that fails ends it with its own error. -/
theorem upload_confirms {n : Int} (hn : c.settings.uploadPollAttempts = .int n) (url fileName type : String)
    (content : ByteArray) (s : Session σ τ) :
    Confirms c url fileName type content n s (carryOut (upload url fileName type content) c s) where
  creates := askUpload_requested _ s
  uncreated e t he := by
    rw [upload, carryOut_bind, createUpload_error he]
  sends reply id t hreply _ := by
    have hrequested := askUpload_requested (c := c) (.create fileName type) s
    rw [hreply] at hrequested
    exact ⟨hrequested.events_of_ok, askUpload_requested _ t⟩
  unsent reply id t hreply hid e t' he := by
    rw [upload_made hn (createUpload_record hreply hid),
      sendUpload_error (u := ⟨id, statusBy (.text "pending") (.record reply)⟩) he]
  polls reply id t hreply hid fields t' hfields := by
    have hrequested := askUpload_requested (c := c) (.send id fileName type content) t
    rw [hfields] at hrequested
    rw [upload_made hn (createUpload_record hreply hid),
      sendUpload_record (u := ⟨id, statusBy (.text "pending") (.record reply)⟩) hfields]
    exact ⟨hrequested.events_of_ok, pollAndConfirm_concludes url id _ n.toNat t'⟩

end Steps

/-- A service that takes a file in only after having been asked twice about it. -/
def hesitant : Outside Nat Int where
  now _ := 0
  date _ := ""
  ask _ n := (.silence, n)
  upload
    | .create .., n => (.answer { chunks := ["\x7b\"id\":\"1\"\x7d".toUTF8] }, n)
    | .send .., n => (.answer { chunks := ["\x7b\"status\":\"pending\"\x7d".toUTF8] }, n)
    | .retrieve _, 0 => (.answer { chunks := ["\x7b\x7d".toUTF8] }, 1)
    | .retrieve _, n + 1 => (.answer { chunks := ["\x7b\"status\":\"uploaded\"\x7d".toUTF8] }, n + 2)
  fetch _ n := (.silence, n)
  finish urls := List.range urls.length

/-- A clipper that asks it as often as that. -/
def patient : Clipper Nat Int := { outside := hesitant, settings := { uploadPollAttempts := .int 2 }, token := "" }

/-- Its session, before anything has happened. -/
def patientSession : Session Nat Int := { outside := 0, budget := { perMinute := 60 } }

/-- The last poll that there may be confirms the upload. -/
theorem patient_confirms :
    patient.settings.uploadPollAttempts = .int 2 ∧
      (match carryOut (upload "http://h/a.png" "a.png" "image/png" "x".toUTF8) patient patientSession with
        | (.ok (.text id), t) => decide (id = "1" ∧ t.outside = 2)
        | _ => false) = true ∧
      Confirms patient "http://h/a.png" "a.png" "image/png" "x".toUTF8 2 patientSession
        (carryOut (upload "http://h/a.png" "a.png" "image/png" "x".toUTF8) patient patientSession) :=
  ⟨rfl, by decide +kernel, upload_confirms rfl _ _ _ _ _⟩

end Uploads

end Service

end WebClip
