import WebClip.Proofs.Sweeping
/-!
# When a sweep returns

No error of the clipper's own ends a sweep with a fault. What breaks it are replies, blocks and
uploads that cannot be read, and it breaks in the round that meets with one. From a service whose
replies can be read it returns, whatever fails, unless replies that always tell of more keep it
going until it is left unfinished.
-/

namespace WebClip

open Act

/-! ## Breaking -/

namespace Reply

theorem noClip_iterate (v : Value) : NoClip (iterate v) := by
  unfold iterate
  split
  all_goals first | exact .ok _ | exact .error nofun

theorem noClip_isExternalImage (block : Value) : NoClip (isExternalImage block) := by
  refine .bind (noClip_getD _ _ _) fun type => ?_
  split
  · exact .bind (noClip_getD _ _ _) fun image => .bind (noClip_getD _ _ _) fun kind => .ok _
  · exact .ok false

end Reply

namespace Sweep

theorem noClip_listingsOf (block : Value) : NoClip (listingsOf block) := by
  refine .bind (Reply.noClip_getD _ _ _) fun more => ?_
  split
  · exact .bind (Reply.noClip_require _ _) fun id => .ok _
  · exact .ok []

theorem noClip_blocksOf (reply : Value) : NoClip (blocksOf reply) :=
  .bind (Reply.noClip_getD _ _ _) fun results => Reply.noClip_iterate results

/-- How a visit to a block breaks a sweep. -/
inductive Visit.Breaks (v : Visit) (f : Fault) : Prop
  /-- The block cannot be read. -/
  | unread : listingsOf v.block = .error f ∨ Reply.isExternalImage v.block = .error f → Visit.Breaks v f
  /-- The attempt to move its image ends in no error of the clipper's own. -/
  | broken : v.outcome? = some (.error f) → NoClip (.error f : Except Fault Unit) → Visit.Breaks v f
  /-- The attempt fails, but the block has no id to tell. -/
  | nameless {e : ClipError} : v.outcome? = some (.error (.clip e)) → Reply.require v.block "id" = .error f →
    Visit.Breaks v f

/-- How a round breaks a sweep. -/
inductive Round.Breaks (r : Round) (f : Fault) : Prop
  /-- The listing ends in no error of the clipper's own. -/
  | crashed : r.answer = .error f → NoClip (.error f : Except Fault Value) → Round.Breaks r f
  /-- No blocks can be read off the reply. -/
  | unread {reply : Value} : r.answer = .ok reply → blocksOf reply = .error f → Round.Breaks r f
  | visit {v : Visit} : v ∈ r.visits → v.Breaks f → Round.Breaks r f

theorem Visit.Breaks.noClip {v : Visit} {f : Fault} (h : v.Breaks f) : NoClip (.error f : Except Fault Unit) := by
  cases h with
  | unread h =>
    rcases h with h | h
    · exact (h ▸ noClip_listingsOf v.block).cast
    · exact (h ▸ Reply.noClip_isExternalImage v.block).cast
  | broken _ h => exact h
  | nameless _ h => exact (h ▸ Reply.noClip_require v.block "id").cast

/-- Only other faults break a sweep. -/
theorem Round.Breaks.noClip {r : Round} {f : Fault} (h : r.Breaks f) : NoClip (.error f : Except Fault Unit) := by
  cases h with
  | crashed _ h => exact h.cast
  | @unread reply _ h => exact (h ▸ noClip_blocksOf reply).cast
  | visit _ h => exact h.noClip

theorem Seen.breaks {s : Sweep} {v : Visit} {f : Fault} (h : Seen s v (.error f)) : v.Breaks f := by
  cases h with
  | unread _ h => exact .unread h
  | nameless ho _ h => exact .nameless ho h
  | broken ho h => exact .broken ho h

theorem SeenAll.breaks {s : Sweep} {blocks : List Value} {vs : List Visit} {f : Fault}
    (h : SeenAll s blocks vs (.error f)) : ∃ v ∈ vs, v.Breaks f := by
  generalize hr : (.error f : Except Fault Sweep) = r at h
  induction h with
  | nil | stopped => cases hr
  | cons _ _ _ ih =>
    obtain ⟨v, hv, hbreaks⟩ := ih hr
    exact ⟨v, List.mem_cons_of_mem _ hv, hbreaks⟩
  | @broken _ v _ _ hseen =>
    cases hr
    exact ⟨v, List.mem_cons_self, hseen.breaks⟩

/-- A reply whose blocks can be read tells what follows it. -/
theorem continueListing_isOk {reply : Value} {blocks : List Value} (h : blocksOf reply = .ok blocks) (parent : Value)
    (s : Sweep) : ∃ s', continueListing parent reply s = .ok s' := by
  cases reply with
  | record fields =>
    unfold continueListing
    simp only [Reply.get, Reply.getD, bind, Except.bind]
    split <;> exact ⟨_, rfl⟩
  | _ => cases h

theorem Listed.breaks {s : Sweep} {round : Round} {f : Fault} (h : Listed s round (.error f)) : round.Breaks f := by
  generalize hr : (.error f : Except Fault Sweep) = r at h
  cases h with
  | read _ hb _ _ =>
    obtain ⟨s', hs'⟩ := continueListing_isOk hb round.parent _
    rw [hs'] at hr
    cases hr
  | broken _ _ hall =>
    cases hr
    obtain ⟨v, hv, hbreaks⟩ := hall.breaks
    exact .visit hv hbreaks
  | unread ha hb =>
    cases hr
    exact .unread ha hb
  | crashed ha hf =>
    cases hr
    exact .crashed ha hf
  | stopped | refused | failed => cases hr

/-- A sweep that ends in a fault does so in the round that breaks, or else is unfinished after all of its rounds. -/
theorem Sweeps.breaks {n : Nat} {s : Sweep} {rounds : List Round} {f : Fault} (h : Sweeps n s rounds (.error f)) :
    (∃ round, rounds.getLast? = some round ∧ round.Breaks f) ∨ f = .unfinished ∧ rounds.length = n := by
  generalize hr : (.error f : Except Fault Sweep) = r at h
  induction h with
  | done => cases hr
  | spent =>
    cases hr
    exact .inr ⟨rfl, rfl⟩
  | @round _ _ _ _ rounds _ _ _ _ _ _ ih =>
    refine (ih hr).imp ?_ fun ⟨hspent, hlength⟩ => ⟨hspent, congrArg (· + 1) hlength⟩
    rintro ⟨round, hlast, hbreaks⟩
    cases rounds with
    | nil => cases hlast
    | cons => exact ⟨round, by rwa [List.getLast?_cons_cons], hbreaks⟩
  | broken _ _ hlisted =>
    cases hr
    exact .inl ⟨_, rfl, hlisted.breaks⟩

end Sweep

/-! ## Replies that can be read -/

/-- A block whose id and kind can be read, and the URL of its image where that is at one of its own. -/
structure Sweep.Legible (block : Value) : Prop where
  id : ∃ id, Reply.require block "id" = .ok id
  kind : ∃ b, Reply.isExternalImage block = .ok b
  url : Reply.isExternalImage block = .ok true → ∃ url, imageUrl block = .ok (.text url)

/-- A reply about an upload that means success and is not JSON, no record, or lacks the id of a new upload is
illegible. -/
def UploadRequest.Legible (r : UploadRequest) (reply : HttpReply) : Prop :=
  200 ≤ reply.status → reply.status < 300 → ∃ fields, Service.decoded reply.body = .ok (.record fields) ∧
    ∀ fileName contentType, r = .create fileName contentType → ∃ id, Reply.require (.record fields) "id" = .ok id

/-- Everything outside answers, or fails as is foreseen, and what it answers can be read. -/
structure Outside.Legible {σ τ : Type} (o : Outside σ τ) : Prop where
  asked : ∀ r w, Settled ((o.ask r w).1.outcome r.label)
  listed : ∀ id size cursor w reply, (o.ask (.children id size cursor) w).1 = .answer reply →
    ∃ blocks, Sweep.blocksOf reply = .ok blocks ∧ ∀ block ∈ blocks, Sweep.Legible block
  uploaded : ∀ r w, Settled ((o.upload r w).1.outcome r.label)
  moved : ∀ r w reply, (o.upload r w).1 = .answer reply → r.Legible reply
  fetched : ∀ url w, (o.fetch url w).1 ≠ .silence ∧ ∀ text, (o.fetch url w).1 ≠ .failure (.crash text)

/-- Settings with a version, a limit of the size of images and a number of polls. -/
structure Settings.Legible (s : Settings) : Prop where
  version : ∃ v, s.notionVersion = .text v
  limit : ∀ size, ∃ b, Download.exceeds size s.maxImageBytes = .ok b
  attempts : ∃ n, Service.pollAttempts s.uploadPollAttempts = .ok n

theorem Settled.ite {α : Type} {p : Prop} [Decidable p] {a b : Except Fault α} (ha : Settled a) (hb : Settled b) :
    Settled (if p then a else b) := by
  split
  · exact ha
  · exact hb

/-- A result of which something holds, or an error of the clipper's own. -/
def Yields {α : Type} (P : α → Prop) (r : Except Fault α) : Prop := Settled r ∧ ∀ x, r = .ok x → P x

section Yields
variable {α β : Type} {P : α → Prop}

theorem Yields.ok {x : α} (h : P x) : Yields P (.ok x) := by
  refine ⟨.ok x, ?_⟩
  rintro _ ⟨⟩
  exact h

theorem Yields.clip (e : ClipError) : Yields P (.error (.clip e)) := ⟨.clip e, nofun⟩

theorem Yields.settled {r : Except Fault α} (h : Settled r) : Yields (fun _ => True) r := ⟨h, fun _ _ => trivial⟩

variable {σ τ : Type} [Clock τ] {c : Clipper σ τ}

/-- First something of which something is known unless it ends in an error of the clipper's own. -/
theorem Act.Does.bind_yields {M : Move → Prop} {Q : β → Prop} {a : Act σ τ α} {f : α → Act σ τ β}
    (ha : Does c M (Yields P) a) (hf : ∀ x, P x → Does c M (Yields Q) (f x)) : Does c M (Yields Q) (a >>= f) := by
  refine .bind ha (fun e h => ?_) fun x h => hf x (h.2 x rfl)
  obtain ⟨e, rfl⟩ := h.1 e rfl
  exact .clip e

end Yields

/-! ## Moving images -/

variable {σ τ : Type} [Clock τ] {c : Clipper σ τ} (hout : c.outside.Legible) (hset : c.settings.Legible)

/-- Nothing is said of the moves. -/
abbrev Act.Comes {α : Type} (c : Clipper σ τ) (P : α → Prop) (a : Act σ τ α) : Prop :=
  Does c (fun _ => True) (Yields P) a

namespace Act

theorem note_comes (url : String) (state : ImageState) : Comes c (fun _ => True) (note url state) :=
  .of_move (.note _ _) trivial (.ok trivial)

include hout in
theorem ask_comes (r : Request) : Comes c (fun v => ∃ w, (c.outside.ask r w).1 = .answer v) (ask r) := by
  refine (ask_ensures r).mono ?_
  rintro _ _ (⟨ns, e, -, rfl, -⟩ | ⟨w, -, rfl⟩)
  · exact ⟨fun _ _ => trivial, .clip e⟩
  · refine ⟨fun _ _ => trivial, hout.asked r w, fun v hv => ⟨w, ?_⟩⟩
    cases hr : (c.outside.ask r w).1 with
    | answer a =>
      rw [hr] at hv
      cases hv
      rfl
    | _ => simp [hr, Response.outcome] at hv

/-- What a request about an upload is answered. -/
def Told (r : UploadRequest) (v : Value) : Prop := (∃ fields, v = .record fields) ∧
  ∀ fileName contentType, r = .create fileName contentType → ∃ id, Reply.require v "id" = .ok id

theorem readReply_comes {r : UploadRequest} {response : Response HttpReply} (hresponse : Settled (response.outcome r.label))
    (hlegible : ∀ reply, response = .answer reply → r.Legible reply) : Comes c (Told r) (do
      let reply ← answerOf r.label response
      if reply.status < 200 || reply.status ≥ 300 then
        throw (.clip (.ofStatus reply.status (Utf8.lenient reply.body)))
      orFault (Service.decoded reply.body) : Act σ τ Value) := by
  rw [answerOf_eq]
  refine .bind_yields (P := r.Legible) (.orFault ⟨hresponse, fun reply hreply => ?_⟩) fun reply hreply => ?_
  · cases response with
    | answer a =>
      cases hreply
      exact hlegible _ rfl
    | _ => cases hreply
  · split
    · exact .bind_yields (P := fun _ => False) (.throw (.clip _)) fun _ hnever => hnever.elim
    next hstatus =>
      simp only [Bool.or_eq_true, decide_eq_true_eq, not_or, Int.not_lt, Int.not_le] at hstatus
      obtain ⟨fields, hfields, hid⟩ := hreply hstatus.1 hstatus.2
      refine .orFault ?_
      rw [hfields]
      exact .ok ⟨⟨fields, rfl⟩, hid⟩

include hout hset in
theorem askUpload_comes (r : UploadRequest) : Comes c (Told r) (Service.askUpload r) := by
  intro s
  rw [EnsuresFrom, Service.askUpload, carryOut_bind, carryOut_spend]
  cases hb : s.budget.acquire (c.outside.now s.outside) with
  | error e => exact ⟨_, .cons (.refused s e hb) (.single (.told _ [_])), by simp, .clip e⟩
  | ok b =>
    simp only [carryOut_bind, carryOut_read]
    obtain ⟨v, hv⟩ := hset.version
    rw [hv]
    have hread := readReply_comes (c := c) (hout.uploaded r s.outside) (hout.moved r s.outside)
    obtain ⟨ms, hp, -, hcomes⟩ := hread
      { s with budget := b, events := .uploaded r :: s.events, outside := (c.outside.upload r s.outside).2 }
    exact ⟨_, .cons (.uploaded s b r hb) hp, by simp, hcomes⟩

theorem withStatus_isOk {r : UploadRequest} {v : Value} (h : Told r v) (u : Service.Upload) :
    ∃ u', Service.withStatus u v = .ok u' := by
  obtain ⟨⟨fields, rfl⟩, -⟩ := h
  exact ⟨_, rfl⟩

/-- What is sure to be had is had. -/
theorem orFault_comes {α : Type} {r : Except Fault α} (h : ∃ x, r = .ok x) : Comes c (fun _ => True) (orFault r) := by
  obtain ⟨x, rfl⟩ := h
  exact .orFault (.ok trivial)

include hout hset in
theorem createUpload_comes (fileName contentType : String) :
    Comes c (fun _ => True) (Service.createUpload fileName contentType) := by
  refine .bind_yields (askUpload_comes hout hset _) fun reply hreply => orFault_comes ?_
  obtain ⟨id, hid⟩ := hreply.2 fileName contentType rfl
  obtain ⟨u, hu⟩ := withStatus_isOk hreply { id }
  exact ⟨u, by rw [hid]; exact hu⟩

include hout hset in
theorem sendUpload_comes (u : Service.Upload) (fileName contentType : String) (content : ByteArray) :
    Comes c (fun _ => True) (Service.sendUpload u fileName contentType content) :=
  .bind_yields (askUpload_comes hout hset _) fun _ hreply => orFault_comes (withStatus_isOk hreply u)

include hout hset in
theorem poll_comes (interval : Value) (n : Nat) (u : Service.Upload) :
    Comes c (fun _ => True) (Service.poll interval n u) := by
  induction n generalizing u with
  | zero => exact .pure (.ok trivial)
  | succ n ih =>
    rw [Service.poll]
    split
    · exact .pure (.ok trivial)
    · refine .bind_yields (P := fun _ => True) (.of_move (.sleep interval) trivial (.ok trivial)) fun _ _ => ?_
      refine .bind_yields (askUpload_comes hout hset _) fun reply hreply => ?_
      exact .bind_yields (orFault_comes (withStatus_isOk hreply u)) fun u _ => ih u

include hout hset in
theorem upload_comes (url fileName contentType : String) (content : ByteArray) :
    Comes c (fun _ => True) (Service.upload url fileName contentType content) := by
  unfold Service.upload
  refine .bind_yields (createUpload_comes hout hset _ _) fun u _ => ?_
  refine .bind_yields (sendUpload_comes hout hset u _ _ _) fun u _ => ?_
  refine .bind_done .read ?_
  have hend (n : Nat) : Comes c (fun _ => True) (do
      let u ← Service.poll c.settings.uploadPollInterval n u
      if u.isDone then pure u.id
      else throw (.clip (.make (.upload url) ("Upload " ++ u.id.display ++ " not confirmed (status=" ++
        u.status.display ++ ")"))) : Act σ τ Value) := by
    refine .bind_yields (poll_comes hout hset _ n u) fun u _ => ?_
    split
    · exact .pure (.ok trivial)
    · exact .throw (.clip _)
  dsimp only
  split
  · exact hend 0
  · exact .bind_yields (orFault_comes hset.attempts) fun n _ => hend n

end Act

namespace Download

theorem settled_gather {limit : Value} (h : ∀ size, ∃ b, exceeds size limit = .ok b) (url : String)
    (content : ByteArray) (parts : List ByteArray) : Settled (gather url limit content parts) := by
  induction parts generalizing content with
  | nil => exact .ok content
  | cons part rest ih =>
    obtain ⟨b, hb⟩ := h (content.size + part.size)
    rw [gather, hb]
    cases b with
    | true => exact .clip _
    | false => exact ih _

theorem settled_checkLength {limit : Value} (h : ∀ size, ∃ b, exceeds size limit = .ok b) (url : String)
    (r : HttpReply) : Settled (checkLength url limit r) := by
  unfold checkLength
  split
  · exact .ok ()
  · split
    · exact .clip _
    next size _ =>
      obtain ⟨b, hb⟩ := h size.toNat
      rw [hb]
      cases b with
      | true => exact .clip _
      | false => exact .ok ()

theorem settled_ofData {limit : Value} (h : ∀ size, ∃ b, exceeds size limit = .ok b) (url : String) :
    Settled (ofData limit url) := by
  unfold ofData
  dsimp only
  repeat' split
  all_goals first
    | exact .ok _
    | exact .clip _
    | next he =>
      -- the size can be compared with the limit
      obtain ⟨b, hb⟩ := h _
      rw [hb] at he
      cases he

theorem settled_ofReply {limit : Value} (h : ∀ size, ∃ b, exceeds size limit = .ok b) (url : String) (r : HttpReply) :
    Settled (ofReply limit url r) := by
  unfold ofReply
  dsimp only
  refine .ite (.clip _) (.bind (settled_checkLength h url r) fun _ _ => ?_)
  exact .ite (.clip _) (.bind (settled_gather h url _ _) fun content _ => .ok _)

/-- An answer of a host of images, or a failure that is foreseen. -/
def Foreseen (a : Response HttpReply) : Prop := a ≠ .silence ∧ ∀ text, a ≠ .failure (.crash text)

section Hosts
variable (hhosts : ∀ url w, Foreseen (c.outside.fetch url w).1)
include hhosts

theorem fetch_comes (url : String) : Comes c Foreseen (fetch url) := by
  refine (fetch_ensures url).mono ?_
  rintro _ _ ⟨w, -, rfl⟩
  exact ⟨fun _ _ => trivial, .ok (hhosts url w)⟩

theorem fetchFrom_comes (n : Nat) (url : String) : Comes c Foreseen (fetchFrom n url) := by
  have hbroken (text : String) : Foreseen (.failure (.broken text)) := ⟨nofun, nofun⟩
  induction n generalizing url with
  | zero =>
    rw [fetchFrom]
    refine .bind_yields (fetch_comes hhosts url) fun a ha => ?_
    split
    · split
      · exact .pure (.ok ha)
      · exact .pure (.ok (hbroken _))
    · exact .pure (.ok ha)
  | succ n ih =>
    rw [fetchFrom]
    refine .bind_yields (fetch_comes hhosts url) fun a ha => ?_
    split
    · split
      · exact .pure (.ok ha)
      · dsimp only
        split
        · exact ih _
        · exact .pure (.ok (hbroken _))
    · exact .pure (.ok ha)

/-- A download ends in an error of the clipper's own, if in any. -/
theorem run_comes (hlimit : ∀ size, ∃ b, exceeds size c.settings.maxImageBytes = .ok b) (url : String) :
    Comes c (fun _ => True) (run url) := by
  unfold run
  refine .bind_done .read ?_
  dsimp only
  split
  · exact .orFault (.settled (settled_ofData hlimit url))
  · split
    · exact .throw (.clip _)
    · refine .bind_yields (fetchFrom_comes hhosts _ url) fun a ha => ?_
      cases a with
      | answer r => exact .orFault (.settled (settled_ofReply hlimit url r))
      | failure f =>
        cases f with
        | crash text => exact absurd rfl (ha.2 text)
        | _ => exact .throw (.clip _)
      | silence => exact absurd rfl ha.1

end Hosts

end Download

namespace Image

include hout hset in
theorem upload_comes (image : Download) : Comes c (fun _ => True) (upload image) := by
  unfold upload
  refine .bind_yields (note_comes _ _) fun _ _ => ?_
  refine .bind_sure (Act.upload_comes hout hset _ _ _ _).attempt fun o ho => ?_
  cases o with
  | ok id => exact .bind_yields (note_comes _ _) fun _ _ => .pure (.ok trivial)
  | error f =>
    obtain ⟨e, rfl⟩ := ho.1 f rfl
    exact .bind_yields (note_comes _ _) fun _ _ => .throw (.clip _)

include hout hset in
theorem rehost_comes (url : String) : Comes c (fun _ => True) (rehost url) := by
  unfold rehost
  refine .bind_yields (note_comes _ _) fun _ _ => .bind_yields (note_comes _ _) fun _ _ => ?_
  refine .bind_sure (Download.run_comes hout.fetched hset.limit url).attempt fun o ho => ?_
  cases o with
  | ok image =>
    refine .bind_yields (note_comes _ _) fun _ _ => .bind_yields (upload_comes hout hset image) fun id _ => ?_
    exact .bind_yields (note_comes _ _) fun _ _ => .pure (.ok trivial)
  | error f =>
    obtain ⟨e, rfl⟩ := ho.1 f rfl
    dsimp only
    split
    · exact .bind_yields (note_comes _ _) fun _ _ => .throw (.clip _)
    · exact .throw (.clip _)

end Image

/-! ## The whole sweep -/

namespace Sweep

include hout hset in
/-- An attempt at a legible block ends in an error of the clipper's own, if in any. -/
theorem migrate_comes {block : Value} (h : Legible block) (himage : Reply.isExternalImage block = .ok true) :
    Comes c (fun _ => True) (migrate block) := by
  obtain ⟨url, hurl⟩ := h.url himage
  obtain ⟨id, hid⟩ := h.id
  unfold migrate
  cases hfield : Reply.require block "image" with
  | error f =>
    rw [imageUrl, hfield] at hurl
    cases hurl
  | ok image =>
    rw [imageUrl, hfield] at hurl
    change (do Reply.require (← Reply.require image "external") "url") = _ at hurl
    have hcaption : ∃ caption, Reply.getD image "caption" (.list []) = .ok caption := by
      cases image with
      | record fields => exact ⟨_, rfl⟩
      | _ => cases hurl
    refine .bind_done (.orFault rfl) (.bind_done (.orFault hurl) ?_)
    refine .bind_yields (Image.rehost_comes hout hset url) fun upload _ => .bind_done (.orFault hid) ?_
    refine .bind_yields (orFault_comes hcaption) fun caption _ => ?_
    exact .bind_yields (ask_comes hout _) fun _ _ => .pure (.ok trivial)

/-- An action that returns, whatever comes. -/
def Returns {α : Type} (c : Clipper σ τ) (a : Act σ τ α) : Prop := Does c (fun _ => True) (fun r => ∃ x, r = .ok x) a

theorem Returns.pure {α : Type} (x : α) : Returns c (Pure.pure x : Act σ τ α) := Does.pure ⟨x, rfl⟩

theorem Returns.bind {α β : Type} {a : Act σ τ α} {f : α → Act σ τ β} (ha : Returns c a) (hf : ∀ x, Returns c (f x)) :
    Returns c (a >>= f) :=
  Does.bind_sure (Q := fun _ => True) (ha.mono fun _ ⟨x, hx⟩ => ⟨x, hx, trivial⟩) fun x _ => hf x

theorem Returns.tell (n : Notice) : Returns c (Act.tell n : Act σ τ Unit) := .of_move (.tell n) trivial ⟨_, rfl⟩

include hout hset in
theorem visit_returns {block : Value} (h : Legible block) (s : Sweep) : Returns c (visit block s) := by
  obtain ⟨id, hid⟩ := h.id
  have hlistings : ∃ listings, listingsOf block = .ok listings := by
    cases block with
    | record fields =>
      unfold listingsOf
      simp only [Reply.get, Reply.getD, bind, Except.bind, hid]
      split <;> exact ⟨_, rfl⟩
    | _ => cases hid
  obtain ⟨listings, hlistings⟩ := hlistings
  obtain ⟨isImage, hkind⟩ := h.kind
  rw [visit_eq, hlistings]
  refine .bind_done (.orFault rfl) ?_
  unfold attemptAt
  rw [hkind]
  refine .bind_done (.orFault rfl) ?_
  cases isImage with
  | false => exact Returns.pure _
  | true =>
    simp only [if_true]
    refine .bind_sure (migrate_comes hout hset h hkind).attempt fun o ho => ?_
    cases o with
    | ok => exact Returns.pure _
    | error f =>
      obtain ⟨e, rfl⟩ := ho.1 f rfl
      dsimp only
      split
      · exact (Returns.tell _).bind fun _ => .pure _
      · rw [hid]
        exact .bind_done (.orFault rfl) ((Returns.tell _).bind fun _ => .pure _)

include hout hset in
theorem visitAll_returns {blocks : List Value} (h : ∀ block ∈ blocks, Legible block) (s : Sweep) :
    Returns c (visitAll blocks s) := by
  induction blocks generalizing s with
  | nil => exact .pure _
  | cons block rest ih =>
    obtain ⟨hblock, hrest⟩ := List.forall_mem_cons.1 h
    rw [visitAll]
    refine (visit_returns hout hset hblock s).bind fun s' => ?_
    split
    · exact .pure _
    · exact ih hrest s'

include hout hset in
theorem step_returns (s : Sweep) : Returns c (step s) := by
  unfold step
  split
  · exact .pure _
  · refine .bind_sure (ask_comes hout _).attempt fun o ho => ?_
    cases o with
    | ok reply =>
      obtain ⟨w, hw⟩ := ho.2 reply rfl
      obtain ⟨blocks, hblocks, hlegible⟩ := hout.listed _ _ _ w reply hw
      refine .bind_done (.orFault hblocks) ((visitAll_returns hout hset hlegible _).bind fun s' => ?_)
      split
      · exact .pure _
      · exact .orFault (continueListing_isOk hblocks _ s')
    | error f =>
      obtain ⟨e, rfl⟩ := ho.1 f rfl
      dsimp only
      split
      · exact (Returns.tell _).bind fun _ => .pure _
      · exact (Returns.tell _).bind fun _ => .pure _

omit hout hset in
/-- No error of the clipper's own ends a sweep with a fault. A sweep that does end with one has met in its last
round with a reply, a block or an upload that it cannot read, or is unfinished after as many listings as it may make.
Where everything can be read it returns, whatever fails, unless it is unfinished. -/
theorem run_breaks (root : Value) (s : Session σ τ) :
    ∃ rounds : List Round, Session.Course c s (rounds.flatMap Round.deeds) (carryOut (run root) c s).2 ∧
      (∀ round ∈ rounds, ∀ v ∈ round.visits, v.Sound) ∧
      (∀ f, (carryOut (run root) c s).1 = .error f → (∀ e, f ≠ .clip e) ∧
        ((∃ round, rounds.getLast? = some round ∧ round.Breaks f) ∨
          f = .unfinished ∧ rounds.length = c.maxListings)) ∧
      (c.outside.Legible → c.settings.Legible → (∃ result, (carryOut (run root) c s).1 = .ok result) ∨
        (carryOut (run root) c s).1 = .error .unfinished ∧ rounds.length = c.maxListings) := by
  -- no round ends in a fault where everything can be read
  have hends (s : Sweep) (t : Session σ τ) (f : Fault) (hf : (carryOut (step s) c t).1 = .error f) :
      ¬ (c.outside.Legible ∧ c.settings.Legible) := by
    rintro ⟨hout, hset⟩
    obtain ⟨-, -, -, s', hok⟩ := step_returns hout hset s t
    rw [hf] at hok
    cases hok
  obtain ⟨_, hc, rounds, hsound, rfl, r, hsweeps, hr, hbroken⟩ := run_ends hends root s
  refine ⟨rounds, hc, hsound, ?_⟩
  rw [hr]
  cases r with
  | ok s' => exact ⟨nofun, fun _ _ => .inl ⟨_, rfl⟩⟩
  | error g =>
    constructor
    · rintro _ ⟨⟩
      refine ⟨?_, hsweeps.breaks⟩
      rcases hsweeps.breaks with ⟨round, -, hbreaks⟩ | ⟨rfl, -⟩
      · exact fun e he => hbreaks.noClip e (congrArg _ he)
      · exact nofun
    · intro hout hset
      rcases hbroken g rfl with ⟨rfl, hlength⟩ | hnot
      · exact .inr ⟨rfl, hlength⟩
      · exact absurd ⟨hout, hset⟩ hnot

section Careless

/-- A listing of one image, which comes with its URL. -/
def onePicture : Value :=
  .record [("results", .list [.record [("id", .text "x"), ("type", .text "image"), ("image", .record [
    ("type", .text "external"), ("external", .record [("url", .text "data:image/gif,a")])])]])]

/-- A service that lists it and takes every file. -/
def attentiveService : Outside Unit Int := { Image.hospitable with ask := fun _ _ => (.answer onePicture, ()) }

/-- Where two steps have a result, the first has one and the second has it from there. -/
theorem exists_of_isOk {α β : Type} {r : Except Fault α} {f : α → Except Fault β} (h : (r >>= f).isOk = true) :
    ∃ x y, r = .ok x ∧ f x = .ok y := by
  cases hb : r >>= f with
  | error e =>
    rw [hb] at h
    cases h
  | ok y =>
    obtain ⟨x, hr, hf⟩ := exists_of_bind hb
    exact ⟨x, y, hr, hf⟩

theorem attentive_legible : attentiveService.Legible where
  asked _ _ := .ok _
  listed _ _ _ _ reply hreply := by
    cases hreply
    refine ⟨_, rfl, fun block hblock => ?_⟩
    obtain rfl := List.mem_singleton.1 hblock
    exact ⟨⟨_, rfl⟩, ⟨_, rfl⟩, fun _ => ⟨_, rfl⟩⟩
  uploaded _ _ := .ok _
  moved r _ reply hreply := by
    cases hreply
    have hbody : (Service.decoded (HttpReply.body
        { chunks := ["\x7b\"id\":\"1\",\"status\":\"uploaded\"\x7d".toUTF8] }) >>= fun v =>
          Reply.require v "id").isOk = true := by decide +kernel
    intro _ _
    obtain ⟨v, id, hread, hid⟩ := exists_of_isOk hbody
    cases v with
    | record fields => exact ⟨fields, hread, fun _ _ _ => ⟨id, hid⟩⟩
    | _ => cases hid
  fetched _ _ := ⟨nofun, nofun⟩

/-- Everything that this service answers can be read, and it tells of no more blocks, so a sweep returns. -/
theorem attentive_returns :
    attentiveService.Legible ∧ Image.hospitableClipper.settings.Legible ∧
      ∃ result, (carryOut (run (.text "page")) { Image.hospitableClipper with outside := attentiveService }
        Image.hospitableSession).1 = .ok result := by
  have hset : Image.hospitableClipper.settings.Legible := ⟨⟨_, rfl⟩, fun _ => ⟨_, rfl⟩, ⟨_, rfl⟩⟩
  have hfinished : (carryOut (run (.text "page")) { Image.hospitableClipper with outside := attentiveService }
      Image.hospitableSession).1.isOk = true := by decide +kernel
  obtain ⟨_, -, -, -, hreturns⟩ := run_breaks (c := { Image.hospitableClipper with outside := attentiveService })
    (.text "page") Image.hospitableSession
  refine ⟨attentive_legible, hset, (hreturns attentive_legible hset).resolve_right ?_⟩
  rintro ⟨hspent, -⟩
  rw [hspent] at hfinished
  cases hfinished

/-- A service that lists it and gives new uploads no id. -/
def carelessService : Outside Unit Int :=
  { Image.hospitable with
    ask := fun _ _ => (.answer onePicture, ())
    upload := fun _ _ => (.answer { chunks := ["\x7b\x7d".toUTF8] }, ()) }

/-- Whether a fault is that a key is missing. -/
def misses (key : String) : Fault → Bool
  | .missingKey k => k == key
  | _ => false

/-- The missing id of the upload ends the sweep with a fault. -/
theorem careless_breaks :
    (carryOut (run (.text "page")) { Image.hospitableClipper with outside := carelessService }
      Image.hospitableSession).1 = .error (.missingKey "id") := by
  have hbreaks : (match (carryOut (run (.text "page")) { Image.hospitableClipper with outside := carelessService }
      Image.hospitableSession).1 with
      | .ok _ => false
      | .error f => misses "id" f) = true := by decide +kernel
  split at hbreaks
  next => cases hbreaks
  next f heq =>
    cases f with
    | missingKey key => rw [heq, eq_of_beq hbreaks]
    | _ => cases hbreaks

end Careless

end Sweep

end WebClip
