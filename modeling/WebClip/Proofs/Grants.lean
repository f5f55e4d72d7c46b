import Mathlib.Algebra.Order.Ring.Defs
import Mathlib.Data.List.TakeWhile
import Mathlib.Tactic.Linarith
import WebClip.Proofs.Resolving
import WebClip.Proofs.Windows
/-!
# Requests granted by the budget

Whatever is asked of the service, one operation after another and whatever fails, each request
that is sent stands right behind a grant of the budget. A refusal ends its operation, images are
fetched without the budget, and so in no minute are more requests sent than it allows.
-/

namespace WebClip

open Act

variable {σ τ : Type}

/-! ## What touches the budget and the outside -/

/-- What happens between a session, its budget and the outside, and when. -/
inductive Touch (τ : Type) where
  | granted (now : τ)
  | refused (now : τ)
  | reached (now : τ) (e : Event)
  /-- The outside changed by itself. -/
  | passed

namespace Touch

/-- When the budget granted a request, if it did. -/
def grant? : Touch τ → Option τ
  | granted now => some now
  | _ => none

/-- When a request was sent to the service, if one was. -/
def request? : Touch τ → Option τ
  | reached now (.asked _) | reached now (.uploaded _) => some now
  | _ => none

/-- What reached the outside, if something did. -/
def event? : Touch τ → Option Event
  | reached _ e => some e
  | _ => none

/-- Whether the budget was asked. -/
def ofBudget : Touch τ → Bool
  | granted _ | refused _ => true
  | reached .. | passed => false

end Touch

/-- Every request stands right behind a grant at the same time. -/
def Guarded (ts : List (Touch τ)) : Prop :=
  ∀ before touch after now, ts = before ++ touch :: after → touch.request? = some now →
    ∃ earlier, before = earlier ++ [.granted now]

theorem Guarded.of_no_request {ts : List (Touch τ)} (h : ∀ touch ∈ ts, touch.request? = none) : Guarded ts := by
  rintro before touch after now rfl hrequest
  rw [h touch (by simp)] at hrequest
  cases hrequest

theorem Guarded.pair (now : τ) (e : Event) : Guarded [.granted now, .reached now e] := by
  intro before touch after now' heq hrequest
  cases before with
  | nil =>
    obtain ⟨rfl, -⟩ := List.cons.inj heq
    cases hrequest
  | cons first before =>
    obtain ⟨rfl, hrest⟩ := List.cons.inj heq
    cases before with
    | nil =>
      obtain ⟨rfl, -⟩ := List.cons.inj hrest
      have hnow : now = now' := by
        cases e <;> first | exact Option.some.inj hrequest | cases hrequest
      exact ⟨[], by rw [hnow, List.nil_append]⟩
    | cons second before => simp at hrest

theorem Guarded.append {ts us : List (Touch τ)} (h : Guarded ts) (h' : Guarded us) : Guarded (ts ++ us) := by
  intro before touch after now heq hrequest
  rcases List.append_eq_append_iff.1 heq with ⟨behind, hbefore, hus⟩ | ⟨rest, hts, hrest⟩
  · obtain ⟨earlier, rfl⟩ := h' behind touch after now hus hrequest
    exact ⟨ts ++ earlier, by rw [hbefore, List.append_assoc]⟩
  · cases rest with
    | nil =>
      rw [List.append_nil] at hts
      obtain ⟨earlier, hnil⟩ := h' [] touch after now hrest.symm hrequest
      cases earlier <;> cases hnil
    | cons first rest =>
      obtain ⟨rfl, -⟩ := List.cons.inj hrest
      exact h before touch rest now hts hrequest

theorem Guarded.flatMap {α : Type} {xs : List α} {f : α → List (Touch τ)} (h : ∀ x ∈ xs, Guarded (f x)) :
    Guarded (xs.flatMap f) := by
  induction xs with
  | nil => exact .of_no_request (by simp)
  | cons x xs ih =>
    obtain ⟨hx, hxs⟩ := List.forall_mem_cons.1 h
    exact hx.append (ih hxs)

namespace Session

variable [Clock τ]

/-- What happens on the way of a session to another. -/
inductive Touches (c : Clipper σ τ) : Session σ τ → List (Touch τ) → Session σ τ → Prop
  | nil (s) : Touches c s [] s
  | still {s t u : Session σ τ} {ts} : Touches c t ts u → t.outside = s.outside → t.budget = s.budget →
    t.events = s.events → Touches c s ts u
  | passed {s u : Session σ τ} {ts} (w : σ) : c.outside.now s.outside ≤ c.outside.now w →
    Touches c { s with outside := w } ts u → Touches c s (.passed :: ts) u
  | granted {s u : Session σ τ} {ts b} : s.budget.acquire (c.outside.now s.outside) = .ok b →
    Touches c { s with budget := b } ts u → Touches c s (.granted (c.outside.now s.outside) :: ts) u
  | refused {s u : Session σ τ} {ts e} : s.budget.acquire (c.outside.now s.outside) = .error e →
    Touches c { s with budget := s.budget.expire (c.outside.now s.outside) } ts u →
    Touches c s (.refused (c.outside.now s.outside) :: ts) u
  | asked {s u : Session σ τ} {ts} (r) :
    Touches c { s with events := .asked r :: s.events, outside := (c.outside.ask r s.outside).2 } ts u →
    Touches c s (.reached (c.outside.now s.outside) (.asked r) :: ts) u
  | uploaded {s u : Session σ τ} {ts} (r) :
    Touches c { s with events := .uploaded r :: s.events, outside := (c.outside.upload r s.outside).2 } ts u →
    Touches c s (.reached (c.outside.now s.outside) (.uploaded r) :: ts) u
  | fetched {s u : Session σ τ} {ts} (url) :
    Touches c { s with events := .fetched url :: s.events, outside := (c.outside.fetch url s.outside).2 } ts u →
    Touches c s (.reached (c.outside.now s.outside) (.fetched url) :: ts) u
  | slept {s u : Session σ τ} {ts} (seconds) : Touches c { s with events := .slept seconds :: s.events } ts u →
    Touches c s (.reached (c.outside.now s.outside) (.slept seconds) :: ts) u

variable {c : Clipper σ τ} {s t u : Session σ τ} {ts us : List (Touch τ)}

theorem Touches.append (h : Touches c s ts t) (h' : Touches c t us u) : Touches c s (ts ++ us) u := by
  induction h with
  | nil => exact h'
  | still _ ho hb he ih => exact .still (ih h') ho hb he
  | passed w hw _ ih => exact .passed w hw (ih h')
  | granted hb _ ih => exact .granted hb (ih h')
  | refused he _ ih => exact .refused he (ih h')
  | asked r _ ih => exact .asked r (ih h')
  | uploaded r _ ih => exact .uploaded r (ih h')
  | fetched url _ ih => exact .fetched url (ih h')
  | slept seconds _ ih => exact .slept seconds (ih h')

/-- The log of a session tells exactly what has reached the outside. -/
theorem Touches.events (h : Touches c s ts t) : t.events = (ts.filterMap Touch.event?).reverse ++ s.events := by
  induction h with
  | nil => rfl
  | still _ _ _ he ih => rw [ih, he]
  | passed _ _ _ ih => exact ih
  | granted _ _ ih => exact ih
  | refused _ _ ih => exact ih
  | asked _ _ ih | uploaded _ _ ih | fetched _ _ ih | slept _ _ ih => simp [ih, Touch.event?]

end Session

/-! ## Moves with their times -/

/-- What a move does with the budget and the outside. -/
def Move.touches (now : τ) : Move → List (Touch τ)
  | refused => [.refused now]
  | admitted => [.granted now]
  | asked r _ => [.granted now, .reached now (.asked r)]
  | uploaded r _ => [.granted now, .reached now (.uploaded r)]
  | fetched url _ => [.reached now (.fetched url)]
  | slept seconds => [.reached now (.slept seconds)]
  | told _ | noted .. | diagnosed _ | remembered _ => []

/-- What moves do, each at some time. -/
inductive Timed : List Move → List (Touch τ) → Prop
  | nil : Timed [] []
  | cons {m : Move} {ms : List Move} {ts : List (Touch τ)} (now : τ) : Timed ms ts →
    Timed (m :: ms) (m.touches now ++ ts)

namespace Timed

variable {ms ns : List Move} {ts : List (Touch τ)}

theorem split (h : Timed (ms ++ ns) ts) : ∃ us vs, ts = us ++ vs ∧ Timed ms us ∧ Timed ns vs := by
  induction ms generalizing ts with
  | nil => exact ⟨[], ts, rfl, .nil, h⟩
  | cons m ms ih =>
    cases h with
    | cons now hrest =>
      obtain ⟨us, vs, rfl, hus, hvs⟩ := ih hrest
      exact ⟨_, vs, (List.append_assoc ..).symm, .cons now hus, hvs⟩

theorem of_mem (h : Timed ms ts) {touch : Touch τ} (hmem : touch ∈ ts) : ∃ m ∈ ms, ∃ now, touch ∈ m.touches now := by
  induction h with
  | nil => cases hmem
  | cons now _ ih =>
    rcases List.mem_append.1 hmem with hmem | hmem
    · exact ⟨_, List.mem_cons_self, now, hmem⟩
    · obtain ⟨m, hm, htouch⟩ := ih hmem
      exact ⟨m, List.mem_cons_of_mem _ hm, htouch⟩

theorem guarded (h : Timed ms ts) : Guarded ts := by
  induction h with
  | nil => exact .of_no_request (by simp)
  | @cons m ms ts now _ ih =>
    refine .append ?_ ih
    cases m with
    | asked r | uploaded r => exact .pair now _
    | _ => exact .of_no_request (by simp [Move.touches, Touch.request?])

/-- There are no more requests than grants. -/
theorem requests_sublist (h : Timed ms ts) : (ts.filterMap Touch.request?).Sublist (ts.filterMap Touch.grant?) := by
  induction h with
  | nil => exact .slnil
  | @cons m ms ts now _ ih =>
    rw [List.filterMap_append, List.filterMap_append]
    refine .append ?_ ih
    cases m with
    | admitted => exact List.nil_sublist _
    | _ => exact List.Sublist.refl _

theorem not_refused (h : Timed ms ts) (hms : Move.refused ∉ ms) (now : τ) : Touch.refused now ∉ ts := by
  intro hmem
  obtain ⟨m, hm, now', htouch⟩ := h.of_mem hmem
  cases m with
  | refused => exact hms hm
  | _ => simp [Move.touches] at htouch

theorem eq_nil (h : Timed ms ts) (hms : ∀ m ∈ ms, ∃ ns, m = .told ns) : ts = [] := by
  induction h with
  | nil => rfl
  | cons now _ ih =>
    obtain ⟨⟨ns, rfl⟩, hrest⟩ := List.forall_mem_cons.1 hms
    exact ih hrest

end Timed

namespace Session

variable [Clock τ] {c : Clipper σ τ} {s t u : Session σ τ}

theorem Step.touches {m : Move} {ts : List (Touch τ)} (h : Step c s m t) (hrest : Touches c t ts u) :
    Touches c s (m.touches (c.outside.now s.outside) ++ ts) u := by
  cases h with
  | told | noted | diagnosed | remembered => exact .still hrest rfl rfl rfl
  | refused e he => exact .refused he hrest
  | admitted b hb => exact .granted hb hrest
  | asked b r hb => exact .granted hb (.asked r hrest)
  | uploaded b r hb => exact .granted hb (.uploaded r hrest)
  | fetched url => exact .fetched url hrest
  | slept seconds => exact .slept seconds hrest

theorem Path.touches {ms : List Move} (h : Path c s ms t) : ∃ ts, Timed ms ts ∧ Touches c s ts t := by
  induction h with
  | nil s => exact ⟨[], .nil, .nil s⟩
  | cons hstep _ ih =>
    obtain ⟨ts, htimed, htouches⟩ := ih
    exact ⟨_, .cons _ htimed, hstep.touches htouches⟩

end Session

/-! ## Refusals -/

/-- A refused request is the last one, and the result is then an error. -/
def RefusedLast {α : Type} (ms : List Move) (r : Except Fault α) : Prop :=
  .refused ∉ ms ∨ ∃ before after e, ms = before ++ .refused :: after ∧ .refused ∉ before ∧
    (∀ m ∈ after, ∃ ns, m = .told ns) ∧ r = .error (.clip e)

namespace RefusedLast

variable {α β : Type} {ms ns : List Move}

theorem prepend {r : Except Fault α} (hms : .refused ∉ ms) (h : RefusedLast ns r) : RefusedLast (ms ++ ns) r := by
  rcases h with hns | ⟨before, after, e, rfl, hbefore, hafter, rfl⟩
  · exact .inl (by simp [hms, hns])
  · exact .inr ⟨ms ++ before, after, e, by simp, by simp [hms, hbefore], hafter, rfl⟩

theorem not_mem {x : α} (h : RefusedLast ms (.ok x)) : .refused ∉ ms := by
  rcases h with hms | ⟨_, _, _, -, -, -, ⟨⟩⟩
  exact hms

theorem cast {f : Fault} (h : RefusedLast ms (.error f : Except Fault α)) :
    RefusedLast ms (.error f : Except Fault β) := by
  rcases h with hms | ⟨before, after, e, hsplit, hbefore, hafter, ⟨⟩⟩
  · exact .inl hms
  · exact .inr ⟨before, after, e, hsplit, hbefore, hafter, rfl⟩

/-- An error may still be told of and become another one. -/
theorem told {f : Fault} (h : RefusedLast ms (.error f : Except Fault α)) (n : List Notice) (e : ClipError) :
    RefusedLast (ms ++ [.told n]) (.error (.clip e) : Except Fault β) := by
  rcases h with hms | ⟨before, after, e', rfl, hbefore, hafter, -⟩
  · exact .inl (by simp [hms])
  · refine .inr ⟨before, after ++ [.told n], e, by simp, hbefore, fun m hm => ?_, rfl⟩
    rcases List.mem_append.1 hm with hm | hm
    · exact hafter m hm
    · exact ⟨n, List.mem_singleton.1 hm⟩

end RefusedLast

theorem Timed.refused_last {α : Type} {ms : List Move} {ts : List (Touch τ)} {r : Except Fault α} (h : Timed ms ts)
    (hms : RefusedLast ms r) {before after : List (Touch τ)} {now : τ} (hts : ts = before ++ .refused now :: after) :
    after = [] ∧ ∃ e, r = .error (.clip e) := by
  rcases hms with hms | ⟨first, last, e, rfl, hfirst, hlast, rfl⟩
  · exact absurd (by simp [hts]) (h.not_refused hms now)
  · refine ⟨?_, e, rfl⟩
    obtain ⟨us, vs, rfl, hus, hvs⟩ := h.split
    cases hvs with
    | cons now' hrest =>
      rw [hrest.eq_nil hlast, List.append_nil, Move.touches] at hts
      -- were there anything behind this refusal, it would stand before the only one there is
      rcases List.eq_nil_or_concat after with hnil | ⟨after, touch, rfl⟩
      · exact hnil
      · have hsplit : us ++ [.refused now'] = (before ++ .refused now :: after) ++ [touch] := by simpa using hts
        have hfront := (List.append_inj' hsplit rfl).1
        exact absurd (by simp [hfront]) (hus.not_refused hfirst now)

namespace Act

variable [Clock τ] {c : Clipper σ τ} {α β : Type}

theorem Ensures.bind_refusedLast {a : Act σ τ α} {f : α → Act σ τ β} (ha : Ensures c RefusedLast a)
    (hf : ∀ x, Ensures c RefusedLast (f x)) : Ensures c RefusedLast (a >>= f) := by
  refine .bind ha (fun ms e h => h.cast) fun ms x h => ?_
  exact (hf x).mono fun ns r hns => hns.prepend h.not_mem

theorem Ensures.of_not_refused {Q : List Move → Except Fault α → Prop} {a : Act σ τ α} (ha : Ensures c Q a)
    (hQ : ∀ ms r, Q ms r → .refused ∉ ms) : Ensures c RefusedLast a :=
  ha.mono fun ms r h => .inl (hQ ms r h)

theorem orFault_refusedLast (r : Except Fault α) : Ensures c RefusedLast (orFault r) := .orFault (.inl (by simp))

theorem ask_refusedLast (r : Request) : Ensures c RefusedLast (ask r) := by
  refine (ask_ensures r).mono ?_
  rintro _ _ (⟨ns, e, rfl, rfl, -⟩ | ⟨w, rfl, -⟩)
  · exact .inr ⟨[], [.told ns], e, rfl, by simp, by simp, rfl⟩
  · exact .inl (by simp)

theorem askUpload_refusedLast (r : UploadRequest) : Ensures c RefusedLast (Service.askUpload r) := by
  intro s
  rw [EnsuresFrom, Service.askUpload, carryOut_bind, carryOut_spend]
  cases hb : s.budget.acquire (c.outside.now s.outside) with
  | error e => exact ⟨_, .cons (.refused s e hb) (.single (.told _ [_])), .inr ⟨[], [_], e, rfl, by simp, by simp, rfl⟩⟩
  | ok b =>
    simp only [carryOut_bind, carryOut_read]
    cases c.settings.notionVersion.text? with
    | none => exact ⟨_, .single (.admitted s b hb), .inl (by simp)⟩
    | some v =>
      -- the answer is read without any further request
      have hread := readReply_does (c := c) (P := fun m => m ≠ .refused) r.label (c.outside.upload r s.outside).1
      obtain ⟨ms, hp, hm, -⟩ := hread
        { s with budget := b, events := .uploaded r :: s.events, outside := (c.outside.upload r s.outside).2 }
      refine ⟨_, .cons (.uploaded s b r hb) hp, .inl fun hmem => ?_⟩
      rcases List.mem_cons.1 hmem with hmem | hmem
      · cases hmem
      · exact hm _ hmem rfl

theorem createUpload_refusedLast (fileName contentType : String) :
    Ensures c RefusedLast (Service.createUpload fileName contentType) :=
  .bind_refusedLast (askUpload_refusedLast _) fun _ => orFault_refusedLast _

theorem sendUpload_refusedLast (u : Service.Upload) (fileName contentType : String) (content : ByteArray) :
    Ensures c RefusedLast (Service.sendUpload u fileName contentType content) :=
  .bind_refusedLast (askUpload_refusedLast _) fun _ => orFault_refusedLast _

theorem poll_refusedLast (interval : Value) (n : Nat) (u : Service.Upload) :
    Ensures c RefusedLast (Service.poll interval n u) := by
  induction n generalizing u with
  | zero => exact .pure (.inl (by simp))
  | succ n ih =>
    rw [Service.poll]
    split
    · exact .pure (.inl (by simp))
    · have hwait : Ensures c RefusedLast (sleep interval) := by
        refine (Ensures.sleep interval).of_not_refused ?_
        rintro _ _ ⟨rfl, -⟩
        simp
      refine .bind_refusedLast hwait fun _ => .bind_refusedLast (askUpload_refusedLast _) fun reply => ?_
      exact .bind_refusedLast (orFault_refusedLast _) fun u => ih u

theorem upload_refusedLast (url fileName contentType : String) (content : ByteArray) :
    Ensures c RefusedLast (Service.upload url fileName contentType content) := by
  unfold Service.upload
  refine .bind_refusedLast (createUpload_refusedLast _ _) fun u => ?_
  refine .bind_refusedLast (sendUpload_refusedLast u _ _ _) fun u => ?_
  have hread : Ensures c RefusedLast (read : Act σ τ (Clipper σ τ)) :=
    Ensures.read.of_not_refused fun _ _ h => by simp [h.1]
  refine .bind_refusedLast hread fun c' => ?_
  have hend (n : Nat) : Ensures c RefusedLast (do
      let u ← Service.poll c'.settings.uploadPollInterval n u
      if u.isDone then pure u.id
      else throw (.clip (.make (.upload url) ("Upload " ++ u.id.display ++ " not confirmed (status=" ++
        u.status.display ++ ")"))) : Act σ τ Value) := by
    refine .bind_refusedLast (poll_refusedLast _ n u) fun u => ?_
    split
    · exact .pure (.inl (by simp))
    · exact .throw (.inl (by simp))
  split
  · exact hend 0
  · exact .bind_refusedLast (orFault_refusedLast _) fun n => hend n

theorem telling_refusedLast (failed : ClipError → String) {a : Act σ τ α} (ha : Ensures c RefusedLast a) :
    Ensures c RefusedLast (Service.telling failed a) := by
  unfold Service.telling
  refine .bind_attempt ha fun ms o h => ?_
  cases o with
  | ok x => exact .pure (.inl (by simpa using h.not_mem))
  | error f =>
    cases f with
    | clip e =>
      refine .bind_move (.tell _) (.throw ?_)
      simpa using h.told _ e
    | _ => exact .throw (by simpa using h)

theorem createPage_refusedLast (page : Value) : Ensures c RefusedLast (Service.createPage page) := by
  unfold Service.createPage
  refine .bind_refusedLast (orFault_refusedLast _) fun count => ?_
  have hrest : Ensures c RefusedLast (do
      let created ← Service.telling (fun e => "Failed to create Notion page: " ++ e.message) (ask (.createPage page))
      let id ← orFault (Reply.require created "id")
      tell (.info ("Created Notion page: " ++ id.display))
      pure created : Act σ τ Value) := by
    refine .bind_refusedLast (telling_refusedLast _ (ask_refusedLast _)) fun created => ?_
    refine .bind_refusedLast (orFault_refusedLast _) fun id => ?_
    exact .bind_move (.tell _) (.pure (.inl (by simp)))
  split
  · exact .bind_refusedLast (.throw (.inl (by simp))) fun _ => hrest
  · exact hrest

theorem appendBatches_refusedLast (id : Value) (total appended : Nat) (batches : List (List Value)) :
    Ensures c RefusedLast (Service.appendBatches id total appended batches) := by
  induction batches generalizing appended with
  | nil => exact .pure (.inl (by simp))
  | cons batch rest ih =>
    rw [Service.appendBatches]
    refine .bind_attempt (ask_refusedLast _) fun ms o h => ?_
    cases o with
    | ok => exact (ih _).mono fun ns r hns => hns.prepend h.not_mem
    | error f =>
      cases f with
      | clip e =>
        refine .bind_move (.tell _) (.throw ?_)
        simpa using h.told _ _
      | _ => exact .throw (by simpa using h.cast)

end Act

/-! ## Operations one after another -/

/-- Something that is done with the service or a host of images, or a change of the outside by itself. -/
inductive Operation (σ : Type) where
  | databases
  | schema (database : Value)
  | createPage (page : Value)
  | append (id : Value) (blocks : List Value)
  | children (id cursor pageSize : Value)
  | update (id : Value) (payload : List (String × Value))
  | createUpload (fileName contentType : String)
  | sendUpload (u : Service.Upload) (fileName contentType : String) (content : ByteArray)
  | retrieveUpload (u : Service.Upload)
  | upload (url fileName contentType : String) (content : ByteArray)
  | download (url : String)
  | pass (change : σ → σ)

namespace Operation

variable [Clock τ]

/-- What it comes to when it is carried out. -/
def act : Operation σ → Act σ τ Unit
  | databases => do let _ ← Service.databases
  | schema database => do let _ ← Service.schema database
  | createPage page => do let _ ← Service.createPage page
  | append id blocks => do let _ ← Service.append id blocks
  | children id cursor pageSize => do let _ ← Service.children id cursor pageSize
  | update id payload => do let _ ← Service.update id payload
  | createUpload fileName contentType => do let _ ← Service.createUpload fileName contentType
  | sendUpload u fileName contentType content => do let _ ← Service.sendUpload u fileName contentType content
  | retrieveUpload u => do
    let reply ← Service.askUpload (.retrieve u.id)
    let _ ← orFault (Service.withStatus u reply)
  | upload url fileName contentType content => do let _ ← Service.upload url fileName contentType content
  | download url => do let _ ← Download.run url
  | pass change => modify fun s => { s with outside := change s.outside }

/-- Operations one after another, whatever fails. -/
def perform : List (Operation σ) → Act σ τ (List (Except Fault Unit))
  | [] => pure []
  | op :: rest => do
    let r ← attempt op.act
    pure (r :: (← perform rest))

end Operation

/-- Nothing turns the clock of the outside back. -/
structure Outside.Forward [LE τ] (o : Outside σ τ) : Prop where
  ask : ∀ r w, o.now w ≤ o.now (o.ask r w).2
  upload : ∀ r w, o.now w ≤ o.now (o.upload r w).2
  fetch : ∀ url w, o.now w ≤ o.now (o.fetch url w).2

/-- An operation with what it did to the budget and the outside and what came of it. -/
structure Performed (σ τ : Type) where
  operation : Operation σ
  touches : List (Touch τ)
  result : Except Fault Unit

/-- Every request was granted just before it was sent, nothing follows a refusal, which makes an error of the
result, for the download of an image the budget was not asked, and nothing passed by itself that was not meant
to. -/
structure Performed.Sound (p : Performed σ τ) : Prop where
  guarded : Guarded p.touches
  refused : ∀ before now after, p.touches = before ++ .refused now :: after →
    after = [] ∧ ∃ e, p.result = .error (.clip e)
  spared : ∀ url, p.operation = .download url → ∀ touch ∈ p.touches, touch.ofBudget = false
  passed : Touch.passed ∈ p.touches → ∃ change, p.operation = .pass change

section Performed

variable [Clock τ] {c : Clipper σ τ}

/-- The download of an image only fetches. -/
theorem Operation.download_fetches (url : String) :
    Does c (fun m => ∃ u a, m = .fetched u a) (fun _ => True) (Operation.download (σ := σ) url).act :=
  .bind (Download.run_does (fun u a => ⟨u, a, rfl⟩) url) (fun _ _ => trivial) fun _ _ => .pure trivial

theorem Operation.refusedLast {op : Operation σ} (hop : ∀ change, op ≠ .pass change) :
    Ensures c RefusedLast op.act := by
  have hdone {α : Type} {a : Act σ τ α} (ha : Ensures c RefusedLast a) :
      Ensures c RefusedLast (do let _ ← a) := .bind_refusedLast ha fun _ => .pure (.inl (by simp))
  cases op with
  | databases => exact hdone (.bind_refusedLast (ask_refusedLast _) fun _ => orFault_refusedLast _)
  | schema => exact hdone (.bind_refusedLast (ask_refusedLast _) fun _ => orFault_refusedLast _)
  | createPage => exact hdone (createPage_refusedLast _)
  | append => exact hdone (appendBatches_refusedLast _ _ _ _)
  | children => exact hdone (ask_refusedLast _)
  | update => exact hdone (ask_refusedLast _)
  | createUpload => exact hdone (createUpload_refusedLast _ _)
  | sendUpload => exact hdone (sendUpload_refusedLast _ _ _ _)
  | retrieveUpload => exact .bind_refusedLast (askUpload_refusedLast _) fun _ => hdone (orFault_refusedLast _)
  | upload => exact hdone (upload_refusedLast _ _ _ _)
  | download url =>
    refine (Operation.download_fetches url).of_not_refused fun ms r h hmem => ?_
    obtain ⟨u, a, heq⟩ := h.1 _ hmem
    cases heq
  | pass change => exact absurd rfl (hop change)

/-- What an operation without the passing of time does along its path. -/
theorem Operation.performed_along {op : Operation σ} {s t : Session σ τ} {ms : List Move} {r : Except Fault Unit}
    (hp : Session.Path c s ms t) (hms : RefusedLast ms r)
    (hspared : ∀ url, op = .download url → ∀ m ∈ ms, ∃ u a, m = .fetched u a) :
    ∃ ts, Session.Touches c s ts t ∧ (Performed.mk op ts r).Sound ∧
      (ts.filterMap Touch.request?).Sublist (ts.filterMap Touch.grant?) := by
  obtain ⟨ts, htimed, htouches⟩ := hp.touches
  refine ⟨ts, htouches, ⟨htimed.guarded, fun _ _ _ => htimed.refused_last hms, ?_, ?_⟩, htimed.requests_sublist⟩
  · intro url hop touch htouch
    obtain ⟨m, hm, now, hnow⟩ := htimed.of_mem htouch
    obtain ⟨u, a, rfl⟩ := hspared url hop m hm
    rw [List.mem_singleton.1 hnow]
    rfl
  · intro hmem
    obtain ⟨m, -, now, hnow⟩ := htimed.of_mem hmem
    cases m <;> simp [Move.touches] at hnow

theorem Operation.performed {op : Operation σ}
    (hop : ∀ change, op = .pass change → ∀ w, c.outside.now w ≤ c.outside.now (change w)) (s : Session σ τ) :
    ∃ ts, Session.Touches c s ts (carryOut op.act c s).2 ∧ (Performed.mk op ts (carryOut op.act c s).1).Sound ∧
      (ts.filterMap Touch.request?).Sublist (ts.filterMap Touch.grant?) := by
  by_cases hpass : ∃ change, op = .pass change
  · obtain ⟨change, rfl⟩ := hpass
    refine ⟨[.passed], .passed (change s.outside) (hop change rfl _) (.nil _), ⟨?_, ?_, nofun, ?_⟩, .slnil⟩
    · exact .of_no_request (by simp [Touch.request?])
    · intro before now after heq
      rcases before with _ | ⟨_, _ | _⟩ <;> cases heq
    · exact fun _ => ⟨change, rfl⟩
  by_cases hdownload : ∃ url, op = .download url
  · obtain ⟨url, rfl⟩ := hdownload
    obtain ⟨ms, hp, hms, -⟩ := Operation.download_fetches (c := c) url s
    refine Operation.performed_along hp (.inl fun hmem => ?_) fun _ _ => hms
    obtain ⟨u, a, heq⟩ := hms _ hmem
    cases heq
  · obtain ⟨ms, hp, hms⟩ := Operation.refusedLast (c := c) (fun change heq => hpass ⟨change, heq⟩) s
    exact Operation.performed_along hp hms fun url heq => absurd ⟨url, heq⟩ hdownload

/-- Operations one after another are carried out to the last, each with its own account. -/
theorem Operation.perform_done {ops : List (Operation σ)}
    (hpass : ∀ change, .pass change ∈ ops → ∀ w, c.outside.now w ≤ c.outside.now (change w)) (s : Session σ τ) :
    ∃ (done : List (Performed σ τ)) (t : Session σ τ), done.map (·.operation) = ops ∧
      carryOut (Operation.perform ops) c s = (.ok (done.map (·.result)), t) ∧
      Session.Touches c s (done.flatMap (·.touches)) t ∧ (∀ p ∈ done, p.Sound) ∧
      ((done.flatMap (·.touches)).filterMap Touch.request?).Sublist
        ((done.flatMap (·.touches)).filterMap Touch.grant?) := by
  induction ops generalizing s with
  | nil => exact ⟨[], s, rfl, rfl, .nil s, by simp, .slnil⟩
  | cons op rest ih =>
    have hop : ∀ change, op = .pass change → ∀ w, c.outside.now w ≤ c.outside.now (change w) := by
      rintro change rfl
      exact hpass change List.mem_cons_self
    obtain ⟨ts, htouches, hsound, hsub⟩ := Operation.performed hop s
    obtain ⟨done, t, hops, hrun, hrest, hall, hsubs⟩ :=
      ih (fun change hmem => hpass change (List.mem_cons_of_mem _ hmem)) (carryOut op.act c s).2
    refine ⟨⟨op, ts, (carryOut op.act c s).1⟩ :: done, t, by simp [hops], ?_, ?_, ?_, ?_⟩
    · rw [Operation.perform, carryOut_bind, carryOut_attempt]
      simp only [carryOut_bind, hrun, carryOut_pure, List.map_cons]
    · exact htouches.append hrest
    · exact List.forall_mem_cons.2 ⟨hsound, hall⟩
    · simpa using hsub.append hsubs

/-- A session starts with a budget made from some limit, and with an empty log. -/
theorem Session.start_budget {settings : Settings} {w : σ} {history : Option File}
    {s : Session σ τ} (h : Session.start settings w history = .ok s) : s.events = [] ∧ ∃ n, Budget.ofLimit n = .ok s.budget := by
  have hfrom (n : Int) (hn : (do return { outside := w, budget := ← Budget.ofLimit n, history }) = Except.ok s) :
      s.events = [] ∧ ∃ n, Budget.ofLimit n = .ok s.budget := by
    obtain ⟨b, hb, ⟨⟩⟩ := exists_of_bind hn
    exact ⟨rfl, n, hb⟩
  unfold Session.start at h
  dsimp only at h
  split at h
  · exact hfrom _ h
  · exact hfrom _ h
  · cases h

end Performed

/-! ## Budgets in exact time -/

section Exact

variable {K : Type} [CommRing K] [LinearOrder K] [IsStrictOrderedRing K] {c : Clipper σ K} {s t : Session σ K}
  {ts : List (Touch K)}

/-- What is granted on the way overfills no minute, together with what was granted before. -/
theorem Session.Touches.sparse (hforward : c.outside.Forward) (h : Touches c s ts t) {granted : List K}
    (hremembers : s.budget.Remembers granted (c.outside.now s.outside))
    (hsparse : Budget.Sparse s.budget.perMinute granted) :
    t.budget.perMinute = s.budget.perMinute ∧
      t.budget.Remembers (granted ++ ts.filterMap Touch.grant?) (c.outside.now t.outside) ∧
      Budget.Sparse s.budget.perMinute (granted ++ ts.filterMap Touch.grant?) := by
  induction h generalizing granted with
  | nil s => exact ⟨rfl, by simpa using hremembers, by simpa using hsparse⟩
  | still _ ho hb _ ih =>
    rw [← hb] at hremembers hsparse ⊢
    rw [← ho] at hremembers
    exact ih hremembers hsparse
  | passed w hw _ ih => exact ih (hremembers.later hw) hsparse
  | @granted s u ts b hb _ ih =>
    obtain ⟨hsame, -, -⟩ := Budget.of_acquire hb
    have hrest := ih (hremembers.acquire hb) (hsparse.acquire hremembers hb)
    rw [← hsame]
    simpa [Touch.grant?] using hrest
  | refused _ _ ih => exact ih hremembers.expire hsparse
  | asked r _ ih => exact ih (hremembers.later (hforward.ask r _)) hsparse
  | uploaded r _ ih => exact ih (hremembers.later (hforward.upload r _)) hsparse
  | fetched url _ ih => exact ih (hremembers.later (hforward.fetch url _)) hsparse
  | slept seconds _ ih => exact ih hremembers hsparse

/-- From the start of a session, operations one after another, whatever fails, leave an account of all that has
reached the outside. Each request in it stands right behind a grant of the budget at the same time, nothing that an
operation does comes after a refusal, downloads leave the budget alone, and no minute holds more requests than the
budget allows. -/
theorem Operation.perform_granted (hforward : c.outside.Forward) {ops : List (Operation σ)}
    (hpass : ∀ change, .pass change ∈ ops → ∀ w, c.outside.now w ≤ c.outside.now (change w)) {w : σ}
    {history : Option File} (hstart : Session.start c.settings w history = .ok s) :
    ∃ (done : List (Performed σ K)) (t : Session σ K), done.map (·.operation) = ops ∧
      carryOut (Operation.perform ops) c s = (.ok (done.map (·.result)), t) ∧
      Session.Touches c s (done.flatMap (·.touches)) t ∧
      (done.flatMap (·.touches)).filterMap Touch.event? = t.events.reverse ∧
      Guarded (done.flatMap (·.touches)) ∧ (∀ p ∈ done, p.Sound) ∧
      Budget.Sparse s.budget.perMinute ((done.flatMap (·.touches)).filterMap Touch.request?) := by
  obtain ⟨hevents, n, hlimit⟩ := Session.start_budget hstart
  obtain ⟨hadmitted, hpositive⟩ := Budget.of_ofLimit hlimit
  obtain ⟨done, t, hops, hrun, htouches, hsound, hsub⟩ := Operation.perform_done hpass s
  have hremembers : s.budget.Remembers [] (c.outside.now s.outside) := by
    simpa [hadmitted] using Budget.Remembers.self s.budget (c.outside.now s.outside)
  obtain ⟨-, -, hsparse⟩ := htouches.sparse hforward hremembers (.nil hpositive)
  refine ⟨done, t, hops, hrun, htouches, ?_, ?_, hsound, ?_⟩
  · simp [htouches.events, hevents]
  · exact .flatMap fun p hp => (hsound p hp).guarded
  · exact hsparse.sublist hsub

end Exact

section Hourglass

/-- A service that answers nothing, half a second after each request. -/
def hourglass : Outside ℚ ℚ where
  now w := w
  date _ := ""
  ask _ w := (.silence, w + 1 / 2)
  upload _ w := (.silence, w + 1 / 2)
  fetch _ w := (.silence, w)
  finish urls := List.range urls.length

theorem hourglass_forward : hourglass.Forward where
  ask _ w := by
    change w ≤ w + 1 / 2
    linarith
  upload _ w := by
    change w ≤ w + 1 / 2
    linarith
  fetch _ w := le_refl w

/-- A clipper that may send one request a minute. -/
def thriftyClipper : Clipper ℚ ℚ := { outside := hourglass, settings := { requestsPerMinute := .int 1 }, token := "" }

/-- Its session, before anything has happened. -/
def thriftySession : Session ℚ ℚ := { outside := 0, budget := { perMinute := 1 } }

theorem thriftySession_start : Session.start thriftyClipper.settings 0 none = .ok thriftySession := rfl

/-- Two requests at once, an image that comes with its URL, and after a minute a third request. -/
def hastyOperations : List (Operation ℚ) :=
  [.update (.text "b") [], .databases, .download "data:image/gif,a", .pass (· + 60), .update (.text "b") []]

theorem hastyOperations_forward (change : ℚ → ℚ) (h : .pass change ∈ hastyOperations) (w : ℚ) :
    thriftyClipper.outside.now w ≤ thriftyClipper.outside.now (change w) := by
  simp only [hastyOperations, List.mem_cons, reduceCtorEq, Operation.pass.injEq, List.not_mem_nil, false_or,
    or_false] at h
  subst h
  change w ≤ w + 60
  linarith

theorem hastyOperations_granted :
    hourglass.Forward ∧
      (carryOut (Operation.perform hastyOperations) thriftyClipper thriftySession).2.events.length = 2 ∧
      ∃ (done : List (Performed ℚ ℚ)) (t : Session ℚ ℚ), done.map (·.operation) = hastyOperations ∧
        carryOut (Operation.perform hastyOperations) thriftyClipper thriftySession =
          (.ok (done.map (·.result)), t) ∧
        Session.Touches thriftyClipper thriftySession (done.flatMap (·.touches)) t ∧
        (done.flatMap (·.touches)).filterMap Touch.event? = t.events.reverse ∧
        Guarded (done.flatMap (·.touches)) ∧ (∀ p ∈ done, p.Sound) ∧
        Budget.Sparse thriftySession.budget.perMinute ((done.flatMap (·.touches)).filterMap Touch.request?) :=
  ⟨hourglass_forward, by decide +kernel,
    Operation.perform_granted hourglass_forward hastyOperations_forward thriftySession_start⟩

end Hourglass

end WebClip
