import WebClip.Proofs.Fates
import WebClip.Sweep
/-!
# The course of a sweep

A sweep goes in rounds: a part of the children of a block is listed, and the blocks listed are
visited one by one, with an attempt to move the image of each that is still at a URL of its own.
What a sweep makes of itself in a round depends only on what came of the listing and of these
attempts; `Seen`, `Listed` and `Sweeps` say how.
-/

namespace WebClip

open Act

variable {σ τ : Type} [Clock τ] {c : Clipper σ τ}

/-! ## Moving one image -/

namespace Image

/-- The deeds until a download has ended. -/
def sought (url : String) (o : Outcome) : List Deed :=
  .noted url .discovered :: (started (url, o) ++ (ended? (url, o)).toList)

/-- The course of moving the image at a URL into an upload. -/
inductive Rehosted (url : String) : List Deed → Except Fault Value → Prop
  | notDownloaded (f) : Rehosted url (sought url (.error f)) (.error f)
  | notUploaded {image : Download} {ds f} : image.url = url → Moved image ds (.error f) →
    Rehosted url (sought url (.ok image) ++ ds) (.error f)
  | done {image : Download} {id} : image.url = url →
    Rehosted url (sought url (.ok image) ++ ((Fate.uploaded image id).deeds ++ [.noted url .resolved])) (.ok id)

theorem rehost_follows (url : String) : Follows c (Rehosted url) (rehost url) := by
  unfold rehost
  refine .bind_note (.bind_note (.bind_attempt (.download url) ?_))
  rintro _ o ⟨rfl, hown⟩
  cases o with
  | ok image =>
    have hurl := hown image rfl
    refine .bind_note (.bind (upload_follows image) ?_ ?_)
    · intro ds f hmoved
      exact .notUploaded hurl hmoved
    · intro ds id hmoved
      cases hmoved
      exact .bind_note (.pure (.done hurl))
  | error f =>
    have hrest : Rehosted url (sought url (.error f)) (.error f) := .notDownloaded f
    dsimp only
    cases hf : failure? (.error f) with
    | none =>
      rw [sought, ended?, hf] at hrest
      exact .throw hrest
    | some message =>
      rw [sought, ended?, hf] at hrest
      exact .bind_note (.throw hrest)

end Image

namespace Sweep

/-- The URL of the image of a block. -/
def imageUrl (block : Value) : Except Fault Value := do
  let image ← Reply.require block "image"
  Reply.require (← Reply.require image "external") "url"

/-- The caption of the image of a block. -/
def imageCaption (block : Value) : Except Fault Value := do
  Reply.getD (← Reply.require block "image") "caption" (.list [])

/-- What a block is changed to when its image has been moved into an upload. -/
def uploadPayload (id caption : Value) : List (String × Value) :=
  [("image", .record [("type", .text "file_upload"), ("file_upload", .record [("id", id)]), ("caption", caption)])]

/-- The course of an attempt to move the image of a block into an upload. -/
inductive Attempted (block : Value) : List Deed → Except Fault Unit → Prop
  | malformed {f} : NoClip (.error f : Except Fault Unit) → Attempted block [] (.error f)
  | kept {url ds f} : imageUrl block = .ok (.text url) → Image.Rehosted url ds (.error f) →
    Attempted block ds (.error f)
  | lost {url ds id f} : imageUrl block = .ok (.text url) → Image.Rehosted url ds (.ok id) →
    NoClip (.error f : Except Fault Unit) → Attempted block ds (.error f)
  | updated {url ds id blockId caption o} : imageUrl block = .ok (.text url) → Image.Rehosted url ds (.ok id) →
    Reply.require block "id" = .ok blockId → imageCaption block = .ok caption →
    Attempted block (ds ++ [.updated blockId (uploadPayload id caption) o]) (o.map fun _ => ())

theorem migrate_follows (block : Value) : Follows c (Attempted block) (migrate block) := by
  unfold migrate
  refine .bind_orFault (fun f hf => .malformed (hf ▸ Reply.noClip_require block "image").cast) fun image himage => ?_
  have hnoClip : NoClip (do Reply.require (← Reply.require image "external") "url") :=
    .bind (Reply.noClip_require _ _) fun _ => Reply.noClip_require _ _
  refine .bind_orFault (fun f hf => .malformed (hf ▸ hnoClip).cast) fun url hurl => ?_
  cases url with
  | text url =>
    have himageUrl : imageUrl block = .ok (.text url) := by
      rw [imageUrl, himage]
      exact hurl
    refine .bind (Image.rehost_follows url) (fun ds f h => .kept himageUrl h) fun ds id h => ?_
    have hlost {f : Fault} {r : Except Fault Value} (hr : NoClip r) (hf : r = .error f) :
        Attempted block (ds ++ []) (.error f) := by
      rw [List.append_nil]
      exact .lost himageUrl h (hf ▸ hr).cast
    refine .bind_orFault (fun f hf => hlost (Reply.noClip_require block "id") hf) fun blockId hid => ?_
    refine .bind_orFault (fun f hf => hlost (Reply.noClip_getD image "caption" _) hf) fun caption hcaption => ?_
    have himageCaption : imageCaption block = .ok caption := by
      rw [imageCaption, himage]
      exact hcaption
    refine .bind (.update _ _) ?_ ?_
    · rintro _ f rfl
      exact .updated himageUrl h hid himageCaption
    · rintro _ reply rfl
      refine .pure ?_
      rw [List.append_nil]
      exact .updated himageUrl h hid himageCaption
  | _ => exact .throw (.malformed (.error nofun))

/-! ## Visiting blocks -/

/-- A block visited, with the attempt to move its image and what came of it, if there was one. -/
structure Visit where
  block : Value
  attempt? : Option (List Deed × Except Fault Unit) := none

namespace Visit

/-- The deeds of the attempt. -/
def deeds (v : Visit) : List Deed := v.attempt?.elim [] (·.1)

/-- What came of the attempt. -/
def outcome? (v : Visit) : Option (Except Fault Unit) := v.attempt?.map (·.2)

/-- An attempt is made only at an image at a URL of its own. -/
def Sound (v : Visit) : Prop :=
  ∀ ds o, v.attempt? = some (ds, o) → Reply.isExternalImage v.block = .ok true ∧ Attempted v.block ds o

end Visit

/-- The listing that a block calls for, if it has children. -/
def listingsOf (block : Value) : Except Fault (List (Value × Value)) := do
  if (← Reply.get block "has_children").truthy then pure [(← Reply.require block "id", .null)] else pure []

/-- A sweep that has come to a block that calls for listings. -/
def entered (s : Sweep) (listings : List (Value × Value)) : Sweep :=
  { queue := s.queue ++ listings
    result := { s.result with visited := s.result.visited + 1 } }

/-- A sweep that has counted an image. -/
def counted (s : Sweep) (migrated failed : Nat) : Sweep :=
  { s with result := { s.result with
    processed := s.result.processed + 1
    migrated := s.result.migrated + migrated
    failed := s.result.failed + failed } }

/-- What a visit makes of a sweep. -/
inductive Seen (s : Sweep) (v : Visit) : Except Fault Sweep → Prop
  | unread {f} : v.attempt? = none → listingsOf v.block = .error f ∨ Reply.isExternalImage v.block = .error f →
    Seen s v (.error f)
  | passed {listings} : listingsOf v.block = .ok listings → Reply.isExternalImage v.block = .ok false →
    v.attempt? = none → Seen s v (.ok (s.entered listings))
  | moved {listings} : listingsOf v.block = .ok listings → v.outcome? = some (.ok ()) →
    Seen s v (.ok ((s.entered listings).counted 1 0))
  | failed {listings e} : listingsOf v.block = .ok listings → v.outcome? = some (.error (.clip e)) →
    e.kind.stopsAll = false → Seen s v (.ok ((s.entered listings).counted 0 1))
  | stopped {listings e} : listingsOf v.block = .ok listings → v.outcome? = some (.error (.clip e)) →
    e.kind.stopsAll = true → Seen s v (.ok (((s.entered listings).counted 0 0).stop 1))
  | nameless {e f} : v.outcome? = some (.error (.clip e)) → e.kind.stopsAll = false →
    Reply.require v.block "id" = .error f → Seen s v (.error f)
  | broken {f} : v.outcome? = some (.error f) → NoClip (.error f : Except Fault Unit) → Seen s v (.error f)

/-- The part of a visit that attempts to move the image of a block. -/
def attemptAt (block : Value) (s : Sweep) : Act σ τ Sweep := do
  if ← orFault (Reply.isExternalImage block) then
    match ← attempt (migrate block) with
    | .ok _ => pure (s.counted 1 0)
    | .error (.clip e) =>
      if e.kind.stopsAll then
        tell (.warning ("Stopping image sweep: " ++ e.message))
        pure ((s.counted 0 0).stop 1)
      else
        let id ← orFault (Reply.require block "id")
        tell (.warning ("Could not migrate image block " ++ id.display ++ ": " ++ e.message))
        pure (s.counted 0 1)
    | .error e => throw e
  else pure s

/-- A visit enters the block and then attempts to move its image. -/
theorem visit_eq (block : Value) (s : Sweep) :
    (visit block s : Act σ τ Sweep) =
      orFault (listingsOf block) >>= fun listings => attemptAt block (s.entered listings) := by
  unfold visit
  cases hget : Reply.get block "has_children" with
  | error f =>
    have hlistings : listingsOf block = .error f := by rw [listingsOf, hget]; rfl
    rw [hlistings]
    rfl
  | ok b =>
    cases hb : b.truthy with
    | false =>
      have hlistings : listingsOf block = .ok [] := by
        simp [listingsOf, hget, hb, bind, Except.bind]
        rfl
      rw [hlistings]
      simp only [orFault, pure_bind, hb, entered, List.append_nil]
      rfl
    | true =>
      cases hid : Reply.require block "id" with
      | error f =>
        have hlistings : listingsOf block = .error f := by simp [listingsOf, hget, hb, hid, bind, Except.bind]
        rw [hlistings]
        simp only [orFault, pure_bind, hb]
        rfl
      | ok id =>
        have hlistings : listingsOf block = .ok [(id, .null)] := by
          simp [listingsOf, hget, hb, hid, bind, Except.bind]
          rfl
        rw [hlistings]
        simp only [orFault, pure_bind, hb, if_true, attemptAt, hid]
        rfl

theorem attemptAt_follows {block : Value} {s : Sweep} {listings : List (Value × Value)}
    (hlistings : listingsOf block = .ok listings) :
    Follows c (fun ds r => ∃ v : Visit, v.block = block ∧ v.Sound ∧ ds = v.deeds ∧ Seen s v r)
      (attemptAt block (s.entered listings)) := by
  unfold attemptAt
  refine .bind_orFault ?_ fun isImage himage => ?_
  · exact fun f hf => ⟨⟨block, none⟩, rfl, nofun, rfl, .unread rfl (.inr hf)⟩
  cases isImage with
  | false => exact .pure ⟨⟨block, none⟩, rfl, nofun, rfl, .passed hlistings himage rfl⟩
  | true =>
    refine .bind_attempt (migrate_follows block) ?_
    intro ds o hattempt
    have hsound : Visit.Sound ⟨block, some (ds, o)⟩ := by
      rintro _ _ ⟨⟩
      exact ⟨himage, hattempt⟩
    have hvisit {es : List Deed} {r : Except Fault Sweep} (hes : es = []) (hseen : Seen s ⟨block, some (ds, o)⟩ r) :
        ∃ v : Visit, v.block = block ∧ v.Sound ∧ ds ++ es = v.deeds ∧ Seen s v r :=
      ⟨_, rfl, hsound, by rw [hes, List.append_nil]; rfl, hseen⟩
    cases o with
    | ok => exact .pure (hvisit rfl (.moved hlistings rfl))
    | error f =>
      cases f with
      | clip e =>
        dsimp only
        split
        next hstops => exact .bind_tell (.pure (hvisit rfl (.stopped hlistings rfl hstops)))
        next hstops =>
          rw [Bool.not_eq_true] at hstops
          refine .bind_orFault (fun f hf => hvisit rfl (.nameless rfl hstops hf)) fun id _ => ?_
          exact .bind_tell (.pure (hvisit rfl (.failed hlistings rfl hstops)))
      | _ => exact .throw (hvisit rfl (.broken rfl (.error nofun)))

theorem visit_follows (block : Value) (s : Sweep) :
    Follows c (fun ds r => ∃ v : Visit, v.block = block ∧ v.Sound ∧ ds = v.deeds ∧ Seen s v r) (visit block s) := by
  rw [visit_eq]
  refine .bind_orFault ?_ fun listings hlistings => ?_
  · exact fun f hf => ⟨⟨block, none⟩, rfl, nofun, rfl, .unread rfl (.inl hf)⟩
  exact attemptAt_follows hlistings

/-- What visits of blocks make of a sweep: an error of the whole document ends them. -/
inductive SeenAll : Sweep → List Value → List Visit → Except Fault Sweep → Prop
  | nil {s} : SeenAll s [] [] (.ok s)
  | cons {s s' v blocks vs r} : Seen s v (.ok s') → s'.result.stoppedEarly = false → SeenAll s' blocks vs r →
    SeenAll s (v.block :: blocks) (v :: vs) r
  | stopped {s s' v blocks} : Seen s v (.ok s') → s'.result.stoppedEarly = true →
    SeenAll s (v.block :: blocks) [v] (.ok s')
  | broken {s v blocks f} : Seen s v (.error f) → SeenAll s (v.block :: blocks) [v] (.error f)

/-- The blocks visited are the first of those that were to be. -/
theorem SeenAll.visited {s : Sweep} {blocks : List Value} {vs : List Visit} {r : Except Fault Sweep}
    (h : SeenAll s blocks vs r) : vs.map Visit.block <+: blocks := by
  induction h with
  | nil => exact List.prefix_rfl
  | cons _ _ _ ih => exact List.prefix_cons_inj _ |>.2 ih
  | stopped | broken => exact ⟨_, rfl⟩

theorem visitAll_follows (blocks : List Value) (s : Sweep) :
    Follows c (fun ds r => ∃ vs : List Visit, (∀ v ∈ vs, v.Sound) ∧ ds = vs.flatMap Visit.deeds ∧
      SeenAll s blocks vs r) (visitAll blocks s) := by
  induction blocks generalizing s with
  | nil => exact .pure ⟨[], by simp, rfl, .nil⟩
  | cons block rest ih =>
    rw [visitAll]
    refine .bind (visit_follows block s) ?_ ?_
    · rintro ds f ⟨v, rfl, hv, rfl, hseen⟩
      exact ⟨[v], by simpa using hv, by simp, .broken hseen⟩
    rintro ds s' ⟨v, rfl, hv, rfl, hseen⟩
    split
    next hstop => exact .pure ⟨[v], by simpa using hv, by simp, .stopped hseen hstop⟩
    next hstop =>
      refine (ih s').mono ?_
      rintro es r ⟨vs, hvs, rfl, hall⟩
      exact ⟨v :: vs, List.forall_mem_cons.2 ⟨hv, hvs⟩, by simp, .cons hseen (by simpa using hstop) hall⟩

/-! ## Rounds -/

/-- A listing with what came of it, and the visits to the blocks listed. -/
structure Round where
  parent : Value
  cursor : Value
  answer : Except Fault Value
  visits : List Visit := []

namespace Round

/-- The deeds of a round. -/
def deeds (r : Round) : List Deed := .listed r.parent r.cursor r.answer :: r.visits.flatMap Visit.deeds

end Round

/-- The blocks that a reply lists. -/
def blocksOf (reply : Value) : Except Fault (List Value) := do
  Reply.iterate (← Reply.getD reply "results" (.list []))

/-- What a round makes of a sweep that had taken the listing out of its queue. -/
inductive Listed (s : Sweep) (round : Round) : Except Fault Sweep → Prop
  | read {reply blocks s'} : round.answer = .ok reply → blocksOf reply = .ok blocks →
    SeenAll s blocks round.visits (.ok s') → s'.result.stoppedEarly = false →
    Listed s round (continueListing round.parent reply s')
  | stopped {reply blocks s'} : round.answer = .ok reply → blocksOf reply = .ok blocks →
    SeenAll s blocks round.visits (.ok s') → s'.result.stoppedEarly = true → Listed s round (.ok s')
  | broken {reply blocks f} : round.answer = .ok reply → blocksOf reply = .ok blocks →
    SeenAll s blocks round.visits (.error f) → Listed s round (.error f)
  | unread {reply f} : round.answer = .ok reply → blocksOf reply = .error f → round.visits = [] →
    Listed s round (.error f)
  | refused {e} : round.answer = .error (.clip e) → e.kind.stopsAll = true → round.visits = [] →
    Listed s round (.ok (s.stop 0))
  | failed {e} : round.answer = .error (.clip e) → e.kind.stopsAll = false → round.visits = [] →
    Listed s round (.ok { s with result := { s.result with failed := s.result.failed + 1 } })
  | crashed {f} : round.answer = .error f → NoClip (.error f : Except Fault Value) → round.visits = [] →
    Listed s round (.error f)

/-- A round visits blocks only where its reply lists them, from the first on. -/
theorem Listed.visited {s : Sweep} {round : Round} {r : Except Fault Sweep} (h : Listed s round r) :
    round.visits = [] ∨ ∃ reply blocks, round.answer = .ok reply ∧ blocksOf reply = .ok blocks ∧
      round.visits.map Visit.block <+: blocks := by
  cases h with
  | read ha hb hall | stopped ha hb hall | broken ha hb hall => exact .inr ⟨_, _, ha, hb, hall.visited⟩
  | unread _ _ hnone | refused _ _ hnone | failed _ _ hnone | crashed _ _ hnone => exact .inl hnone

theorem step_follows {parent cursor : Value} {rest : List (Value × Value)} {s : Sweep}
    (hs : s.queue = (parent, cursor) :: rest) :
    Follows c (fun ds r => ∃ round : Round, round.parent = parent ∧ round.cursor = cursor ∧
      (∀ v ∈ round.visits, v.Sound) ∧ ds = round.deeds ∧ Listed { s with queue := rest } round r) (step s) := by
  unfold step
  rw [hs]
  refine .bind_attempt (.list parent cursor) ?_
  rintro _ o rfl
  cases o with
  | error f =>
    cases f with
    | clip e =>
      dsimp only
      split
      next hstops => exact .bind_tell (.pure ⟨⟨parent, cursor, _, []⟩, rfl, rfl, by simp, rfl, .refused rfl hstops rfl⟩)
      next hstops =>
        rw [Bool.not_eq_true] at hstops
        exact .bind_tell (.pure ⟨⟨parent, cursor, _, []⟩, rfl, rfl, by simp, rfl, .failed rfl hstops rfl⟩)
    | _ => exact .throw ⟨⟨parent, cursor, _, []⟩, rfl, rfl, by simp, rfl, .crashed rfl (.error nofun) rfl⟩
  | ok reply =>
    refine .bind_orFault (fun f hf => ⟨⟨parent, cursor, _, []⟩, rfl, rfl, by simp, rfl, .unread rfl hf rfl⟩) ?_
    intro blocks hblocks
    refine .bind (visitAll_follows blocks _) ?_ ?_
    · rintro ds f ⟨vs, hvs, rfl, hall⟩
      exact ⟨⟨parent, cursor, _, vs⟩, rfl, rfl, hvs, rfl, .broken rfl hblocks hall⟩
    rintro ds s' ⟨vs, hvs, rfl, hall⟩
    split
    next hstop =>
      exact .pure ⟨⟨parent, cursor, _, vs⟩, rfl, rfl, hvs, by simp [Round.deeds], .stopped rfl hblocks hall hstop⟩
    next hstop =>
      rw [Bool.not_eq_true] at hstop
      exact .orFault ⟨⟨parent, cursor, _, vs⟩, rfl, rfl, hvs, by simp [Round.deeds], .read rfl hblocks hall hstop⟩

/-- What at most so many rounds make of a sweep. One that has made them all and is not over is unfinished. -/
inductive Sweeps : Nat → Sweep → List Round → Except Fault Sweep → Prop
  | done {n s} : s.isOver = true → Sweeps n s [] (.ok s)
  | spent {s} : s.isOver = false → Sweeps 0 s [] (.error .unfinished)
  | round {n s s' rest rounds r} {round : Round} : s.isOver = false →
    s.queue = (round.parent, round.cursor) :: rest → Listed { s with queue := rest } round (.ok s') →
    Sweeps n s' rounds r → Sweeps (n + 1) s (round :: rounds) r
  | broken {n s rest f} {round : Round} : s.isOver = false → s.queue = (round.parent, round.cursor) :: rest →
    Listed { s with queue := rest } round (.error f) → Sweeps (n + 1) s [round] (.error f)

/-- A sweep that has stopped makes no more rounds. -/
theorem Sweeps.of_stopped {n : Nat} {s : Sweep} {rounds : List Round} {r : Except Fault Sweep} (h : Sweeps n s rounds r)
    (hs : s.result.stoppedEarly = true) : rounds = [] ∧ r = .ok s := by
  have hover : s.isOver = true := by simp [isOver, hs]
  cases h with
  | done => exact ⟨rfl, rfl⟩
  | spent hgoes | round hgoes | broken hgoes => simp [hover] at hgoes

/-- Where rounds end in a fault, the sweep is unfinished and all `n` of them have been made, or the fault is one in
which a round can end. -/
def Broken (n : Nat) (Q : Fault → Prop) (rounds : List Round) (r : Except Fault Sweep) : Prop :=
  ∀ f, r = .error f → (f = .unfinished ∧ rounds.length = n) ∨ Q f

section Ends
variable {Q : Fault → Prop} (hends : ∀ (s : Sweep) (t : Session σ τ) f, (carryOut (step s) c t).1 = .error f → Q f)
include hends

theorem advance_ends (n : Nat) (s : Sweep) :
    Follows c (fun ds r => ∃ rounds : List Round, (∀ round ∈ rounds, ∀ v ∈ round.visits, v.Sound) ∧
      ds = rounds.flatMap Round.deeds ∧ Sweeps n s rounds r ∧ Broken n Q rounds r) (advance n s) := by
  have hdone {n : Nat} {s : Sweep} (hover : s.isOver = true) : ∃ rounds : List Round,
      (∀ round ∈ rounds, ∀ v ∈ round.visits, v.Sound) ∧ [] = rounds.flatMap Round.deeds ∧
      Sweeps n s rounds (.ok s) ∧ Broken n Q rounds (.ok s) :=
    ⟨[], by simp, rfl, .done hover, nofun⟩
  induction n generalizing s with
  | zero =>
    rw [advance]
    split
    next hover => exact .pure (hdone hover)
    next hover =>
      rw [Bool.not_eq_true] at hover
      refine .throw ⟨[], by simp, rfl, .spent hover, ?_⟩
      rintro _ ⟨⟩
      exact .inl ⟨rfl, rfl⟩
  | succ n ih =>
    rw [advance]
    split
    next hover => exact .pure (hdone hover)
    next hover =>
      rw [Bool.not_eq_true] at hover
      cases hs : s.queue with
      | nil => simp [isOver, hs] at hover
      | cons listing rest =>
        obtain ⟨parent, cursor⟩ := listing
        refine .bind ((step_follows hs).and_result (R := fun r => ∀ f, r = .error f → Q f) (hends s)) ?_ ?_
        · rintro _ f ⟨⟨round, rfl, rfl, hsound, rfl, hlisted⟩, hf⟩
          refine ⟨[round], by simpa using hsound, by simp, .broken hover hs hlisted, ?_⟩
          rintro _ ⟨⟩
          exact .inr (hf f rfl)
        rintro _ s' ⟨⟨round, rfl, rfl, hsound, rfl, hlisted⟩, -⟩
        refine (ih s').mono ?_
        rintro es r ⟨rounds, hrounds, rfl, hsweeps, hbroken⟩
        refine ⟨round :: rounds, List.forall_mem_cons.2 ⟨hsound, hrounds⟩, by simp, .round hover hs hlisted hsweeps, ?_⟩
        intro f hf
        exact (hbroken f hf).imp_left fun ⟨hspent, hlength⟩ => ⟨hspent, congrArg (· + 1) hlength⟩

theorem run_ends (root : Value) :
    Follows c (fun ds r => ∃ rounds : List Round, (∀ round ∈ rounds, ∀ v ∈ round.visits, v.Sound) ∧
      ds = rounds.flatMap Round.deeds ∧
      ∃ r', Sweeps c.maxListings ⟨[(root, .null)], {}⟩ rounds r' ∧ r = r'.map Sweep.result ∧
        Broken c.maxListings Q rounds r') (run root) := by
  unfold run
  refine .bind_read (.bind (advance_ends hends _ _) ?_ ?_)
  · rintro ds f ⟨rounds, hsound, rfl, hsweeps, hbroken⟩
    exact ⟨rounds, hsound, rfl, _, hsweeps, rfl, hbroken⟩
  rintro ds s ⟨rounds, hsound, rfl, hsweeps, hbroken⟩
  have hdone {es : List Deed} (hes : es = []) : ∃ rounds' : List Round,
      (∀ round ∈ rounds', ∀ v ∈ round.visits, v.Sound) ∧
      rounds.flatMap Round.deeds ++ es = rounds'.flatMap Round.deeds ∧
      ∃ r', Sweeps c.maxListings ⟨[(root, .null)], {}⟩ rounds' r' ∧ .ok s.result = r'.map Sweep.result ∧
        Broken c.maxListings Q rounds' r' :=
    ⟨rounds, hsound, by rw [hes, List.append_nil], _, hsweeps, rfl, hbroken⟩
  cases hstop : s.result.stoppedEarly with
  | true => exact .pure (hdone rfl)
  | false => exact .bind_tell (.pure (hdone rfl))

end Ends

theorem run_follows (root : Value) :
    Follows c (fun ds r => ∃ rounds : List Round, (∀ round ∈ rounds, ∀ v ∈ round.visits, v.Sound) ∧
      ds = rounds.flatMap Round.deeds ∧
      ∃ r', Sweeps c.maxListings ⟨[(root, .null)], {}⟩ rounds r' ∧ r = r'.map Sweep.result) (run root) := by
  refine (run_ends (Q := fun _ => True) (fun _ _ _ _ => trivial) root).mono ?_
  rintro ds r ⟨rounds, hsound, hds, r', hsweeps, hr, -⟩
  exact ⟨rounds, hsound, hds, r', hsweeps, hr⟩

end Sweep

end WebClip
