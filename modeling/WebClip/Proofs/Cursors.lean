import Mathlib.Data.List.ProdSigma
import WebClip.Proofs.Coverage
import WebClip.Proofs.Returns
/-!
# Cursors

A reply that tells of more blocks tells where they start, and a sweep goes on from there, wherever that is. As long
as it is no part already asked for, nothing is listed twice, no block is visited or put into the queue twice, and
replies out of finitely many pages are asked for finitely often. A cursor that has been used, or none, makes the
sweep list a part again.
-/

namespace WebClip

open Act

namespace Sweep

/-! ## What a round asks for and what it lists -/

/-- A listing as the service sees it: a cursor that does not count asks for the first part. -/
def asked (listing : Value × Value) : Value × Value := (listing.1, if listing.2.truthy then listing.2 else .null)

/-- The id of a block, if it has one. -/
def idOf? (block : Value) : Option Value := (Reply.require block "id").toOption

/-- The ids of the blocks that a reply lists. -/
def idsOf (reply : Value) : List Value := (blocksOf reply).toOption.elim [] (·.filterMap idOf?)

/-- Where a reply says that more blocks start, if it does. -/
def cursorOf? (reply : Value) : Option Value := do
  let more ← (Reply.get reply "has_more").toOption
  if more.truthy then (Reply.get reply "next_cursor").toOption else none

theorem idsOf_of_ok {reply : Value} {blocks : List Value} (h : blocksOf reply = .ok blocks) :
    idsOf reply = blocks.filterMap idOf? := by
  rw [idsOf, h]
  rfl

namespace Visit

/-- The id of the block, if it has one. -/
def id? (v : Visit) : Option Value := idOf? v.block

/-- The blocks that the visit puts into the queue: the block itself, if there are others under it. -/
def queued (v : Visit) : List Value := (listingsOf v.block).toOption.elim [] (·.map (·.1))

end Visit

namespace Round

/-- The part that the service is asked for. -/
def asked (r : Round) : Value × Value := Sweep.asked r.listing

/-- The ids of the blocks listed. -/
def ids (r : Round) : List Value := r.answer.toOption.elim [] idsOf

/-- The listing that the reply calls for, if it tells of more. -/
def next? (r : Round) : Option (Value × Value) := do
  let next ← cursorOf? (← r.answer.toOption)
  some (r.parent, next)

variable {r : Round} {reply : Value}

theorem ids_of_ok (h : r.answer = .ok reply) : r.ids = idsOf reply := by
  rw [ids, h]
  rfl

theorem next?_of_ok (h : r.answer = .ok reply) : r.next? = (cursorOf? reply).map fun next => (r.parent, next) := by
  rw [next?, h]
  cases hnext : cursorOf? reply <;> simp [hnext, Except.toOption]

theorem next?_of_error {f : Fault} (h : r.answer = .error f) : r.next? = none := by
  rw [next?, h]
  rfl

theorem exists_of_mem_ids {id : Value} (h : id ∈ r.ids) : ∃ reply, r.answer = .ok reply ∧ id ∈ idsOf reply := by
  cases hanswer : r.answer with
  | ok reply => exact ⟨reply, rfl, ids_of_ok hanswer ▸ h⟩
  | error =>
    rw [ids, hanswer] at h
    cases h

theorem exists_of_next? {l : Value × Value} (h : l ∈ r.next?) :
    ∃ reply next, r.answer = .ok reply ∧ cursorOf? reply = some next ∧ l = (r.parent, next) := by
  cases hanswer : r.answer with
  | ok reply =>
    rw [next?_of_ok hanswer] at h
    obtain ⟨next, hnext, rfl⟩ := Option.map_eq_some_iff.1 h
    exact ⟨reply, next, rfl, hnext, rfl⟩
  | error =>
    rw [next?_of_error hanswer] at h
    cases h

end Round

variable {s s' : Sweep}

/-- A visit calls for listings of the blocks that it puts into the queue: its own block or none. -/
theorem listingsOf_eq {v : Visit} {listings : List (Value × Value)} (h : listingsOf v.block = .ok listings) :
    listings = v.queued.map (fun id => (id, .null)) ∧ v.queued.Sublist v.id?.toList := by
  have hqueued : v.queued = listings.map (·.1) := by
    rw [Visit.queued, h]
    rfl
  rw [hqueued]
  unfold listingsOf at h
  obtain ⟨children, -, h⟩ := exists_of_bind h
  split at h
  · obtain ⟨id, hid, ⟨⟩⟩ := exists_of_bind h
    rw [Visit.id?, idOf?, hid]
    exact ⟨rfl, .refl _⟩
  · cases h
    exact ⟨rfl, List.nil_sublist _⟩

theorem queued_sublist (v : Visit) : v.queued.Sublist v.id?.toList := by
  cases h : listingsOf v.block with
  | ok listings => exact (listingsOf_eq h).2
  | error =>
    rw [Visit.queued, h]
    exact List.nil_sublist _

theorem flatMap_queued_sublist (vs : List Visit) : (vs.flatMap Visit.queued).Sublist (vs.filterMap Visit.id?) := by
  induction vs with
  | nil => exact .refl _
  | cons v rest ih =>
    rw [List.flatMap_cons, ← List.singleton_append, List.filterMap_append]
    refine .append ?_ ih
    have hv := queued_sublist v
    cases hid : v.id? <;> simpa [hid] using hv

/-! ## The queue after a round -/

theorem Seen.queue_eq {v : Visit} (h : Seen s v (.ok s')) (hs' : s'.result.stoppedEarly = false) :
    s'.queue = s.queue ++ v.queued.map fun id => (id, .null) := by
  cases h with
  | passed hl | moved hl | failed hl =>
    rw [← (listingsOf_eq hl).1]
    rfl
  | stopped => cases hs'

theorem SeenAll.queue_eq {blocks : List Value} {vs : List Visit} (h : SeenAll s blocks vs (.ok s'))
    (hs' : s'.result.stoppedEarly = false) :
    s'.queue = s.queue ++ (vs.flatMap Visit.queued).map fun id => (id, .null) := by
  generalize hr : (.ok s' : Except Fault Sweep) = r at h
  induction h with
  | nil =>
    cases hr
    simp
  | cons hseen hgoes _ ih =>
    rw [ih hr, hseen.queue_eq hgoes, List.flatMap_cons, List.map_append, List.append_assoc]
  | stopped _ hstop =>
    cases hr
    rw [hstop] at hs'
    cases hs'
  | broken => cases hr

theorem continueListing_eq {parent reply : Value} (h : continueListing parent reply s = .ok s') :
    s'.queue = ((cursorOf? reply).map fun next => (parent, next)).toList ++ s.queue := by
  unfold continueListing at h
  obtain ⟨more, hmore, h⟩ := exists_of_bind h
  split at h
  next hyes =>
    obtain ⟨next, hnext, ⟨⟩⟩ := exists_of_bind h
    simp [cursorOf?, hmore, hnext, hyes, Except.toOption]
  next hno =>
    cases h
    simp [cursorOf?, hmore, hno, Except.toOption]

theorem Listed.queue_eq {round : Round} (h : Listed s round (.ok s')) (hs' : s'.result.stoppedEarly = false) :
    s'.queue = round.next?.toList ++
      (s.queue ++ (round.visits.flatMap Visit.queued).map fun id => (id, .null)) := by
  generalize hr : (.ok s' : Except Fault Sweep) = r at h
  cases h with
  | read ha _ hseen hgoes => rw [continueListing_eq hr.symm, hseen.queue_eq hgoes, Round.next?_of_ok ha]
  | stopped _ _ _ hstop =>
    cases hr
    rw [hstop] at hs'
    cases hs'
  | refused =>
    cases hr
    cases hs'
  | failed ha _ hnone =>
    cases hr
    simp [Round.next?_of_error ha, hnone]
  | _ => cases hr

/-- What waits after a round: where its reply tells of more, what has waited before, and the blocks visited that have
others under them. -/
theorem Listed.mem_queue {round : Round} (h : Listed s round (.ok s')) (hs' : s'.result.stoppedEarly = false)
    {l : Value × Value} (hl : l ∈ s'.queue) :
    l ∈ round.next? ∨ l ∈ s.queue ∨ ∃ id ∈ round.visits.flatMap Visit.queued, l = (id, .null) := by
  rw [h.queue_eq hs', List.mem_append, List.mem_append, Option.mem_toList, List.mem_map] at hl
  exact hl.imp_right (Or.imp_right fun ⟨id, hid, heq⟩ => ⟨id, hid, heq.symm⟩)

theorem Listed.visited_sublist {round : Round} {r : Except Fault Sweep} (h : Listed s round r) :
    (round.visits.filterMap Visit.id?).Sublist round.ids := by
  rcases h.visited with hnone | ⟨reply, blocks, ha, hb, hprefix⟩
  · rw [hnone]
    exact List.nil_sublist _
  · have hsub := hprefix.sublist.filterMap idOf?
    rw [List.filterMap_map] at hsub
    rw [Round.ids_of_ok ha, idsOf_of_ok hb]
    exact hsub

theorem Listed.queued_sublist {round : Round} {r : Except Fault Sweep} (h : Listed s round r) :
    (round.visits.flatMap Visit.queued).Sublist round.ids :=
  (flatMap_queued_sublist round.visits).trans h.visited_sublist

/-! ## Where listings come from -/

section Runs
variable {n : Nat} {rounds : List Round} {r : Except Fault Sweep}

/-- A sweep goes from listing to listing: what holds of those that wait, of a listed block and of where a reply tells
of more holds of every listing made. -/
theorem Sweeps.forall_listing {p : Value × Value → Prop} (h : Sweeps n s rounds r) (hqueue : ∀ l ∈ s.queue, p l)
    (hids : ∀ round ∈ rounds, ∀ id ∈ round.ids, p (id, .null))
    (hnext : ∀ round ∈ rounds, p round.listing → ∀ l ∈ round.next?, p l) : ∀ round ∈ rounds, p round.listing := by
  induction h with
  | done | spent => simp
  | @round n s s₁ rest rounds r round _ hhead hlisted hsweeps ih =>
    obtain ⟨hround, hids⟩ := List.forall_mem_cons.1 hids
    obtain ⟨hgoes, hnext⟩ := List.forall_mem_cons.1 hnext
    rw [hhead] at hqueue
    obtain ⟨hfirst, hrest⟩ := List.forall_mem_cons.1 hqueue
    refine List.forall_mem_cons.2 ⟨hfirst, ?_⟩
    cases hs₁ : s₁.result.stoppedEarly with
    | true =>
      obtain ⟨rfl, -⟩ := hsweeps.of_stopped hs₁
      simp
    | false =>
      refine ih (fun l hl => ?_) hids hnext
      rcases hlisted.mem_queue hs₁ hl with hl | hl | ⟨id, hid, rfl⟩
      · exact hgoes hfirst l hl
      · exact hrest l hl
      · exact hround id (hlisted.queued_sublist.subset hid)
  | broken _ hhead =>
    rw [hhead] at hqueue
    exact List.forall_mem_singleton.2 (List.forall_mem_cons.1 hqueue).1

/-- A sweep that makes another listing has not stopped. -/
theorem Sweeps.not_stopped {round : Round} (h : Sweeps n s (round :: rounds) r) : s.result.stoppedEarly = false := by
  rw [← Bool.not_eq_true]
  intro hstop
  cases (h.of_stopped hstop).1

/-- What a reply calls for is listed next. -/
theorem Sweeps.listing_eq {front back : List Round} {round follower : Round}
    (h : Sweeps n s (front ++ round :: follower :: back) r) {l : Value × Value} (hl : round.next? = some l) :
    follower.listing = l := by
  induction front generalizing n s with
  | nil =>
    cases h with
    | round _ _ hlisted hsweeps =>
      have hqueue := hlisted.queue_eq hsweeps.not_stopped
      rw [hl] at hqueue
      cases hsweeps with
      | round _ hhead' | broken _ hhead' =>
        rw [hqueue] at hhead'
        exact (List.cons.inj hhead').1.symm
  | cons first front ih =>
    rw [List.cons_append] at h
    generalize hlater : front ++ round :: follower :: back = later at h
    cases h with
    | round _ _ _ hsweeps => exact ih (hlater ▸ hsweeps)
    | broken => simp at hlater

/-- A sweep that returns has nothing more to do. -/
theorem Sweeps.isOver (h : Sweeps n s rounds (.ok s')) : s'.isOver = true := by
  generalize hr : (.ok s' : Except Fault Sweep) = r at h
  induction h with
  | done hover =>
    cases hr
    exact hover
  | round _ _ _ _ ih => exact ih hr
  | spent | broken => cases hr

/-- A sweep that has made fewer listings than it may has come to its end: there is nothing more to do, or it broke in
its last round. -/
theorem Sweeps.finished (h : Sweeps n s rounds r) (hfew : rounds.length < n) :
    (∃ s', r = .ok s' ∧ s'.isOver = true) ∨
      ∃ f, r = .error f ∧ ∃ round, rounds.getLast? = some round ∧ round.Breaks f := by
  cases r with
  | ok s' => exact .inl ⟨s', rfl, h.isOver⟩
  | error f =>
    rcases h.breaks with hbreaks | ⟨-, hall⟩
    · exact .inr ⟨f, rfl, hbreaks⟩
    · exact absurd hall (Nat.ne_of_lt hfew)

theorem Sweeps.visited_sublist (h : Sweeps n s rounds r) :
    ∀ round ∈ rounds, (round.visits.filterMap Visit.id?).Sublist round.ids := by
  induction h with
  | done | spent => simp
  | round _ _ hlisted _ ih => exact List.forall_mem_cons.2 ⟨hlisted.visited_sublist, ih⟩
  | broken _ _ hlisted => exact List.forall_mem_singleton.2 hlisted.visited_sublist

end Runs

/-! ## Blocks in their places -/

/-- Every block has its place: it is listed once in a reply and in the answers to one listing, and none of them is
the root. -/
structure Placed (root : Value) (rounds : List Round) : Prop where
  root : ∀ round ∈ rounds, root ∉ round.ids
  within : ∀ round ∈ rounds, round.ids.Nodup
  apart : rounds.Pairwise fun r r' => r.asked ≠ r'.asked → r.ids.Disjoint r'.ids

/-- Wherever a reply tells of more and the sweep goes on, the part that it calls for has not been asked for. -/
def Advancing (rounds : List Round) : Prop :=
  ∀ front round follower back, rounds = front ++ round :: follower :: back →
    ∀ l ∈ round.next?, Sweep.asked l ∉ (front ++ [round]).map Round.asked

/-- Nothing is asked for twice, and no block is visited or put into the queue twice. -/
structure Once (root : Value) (rounds : List Round) : Prop where
  listings : (rounds.map Round.asked).Nodup
  visits : ((rounds.flatMap Round.visits).filterMap Visit.id?).Nodup
  queued : (root :: (rounds.flatMap Round.visits).flatMap Visit.queued).Nodup

section Placed
variable {root : Value} {front rounds : List Round}

theorem Placed.sublist {rounds' : List Round} (h : Placed root rounds) (hsub : rounds'.Sublist rounds) :
    Placed root rounds' :=
  ⟨fun round hround => h.root round (hsub.subset hround), fun round hround => h.within round (hsub.subset hround),
    h.apart.sublist hsub⟩

/-- Where a sweep stands that has asked for nothing twice: no block waits twice in the queue, nothing waits that has
been asked for, and whatever has been listed or waits to be is under the root or a listed block. -/
structure Ready (root : Value) (front : List Round) (s : Sweep) : Prop where
  once : (front.map Round.asked).Nodup
  parents : (s.queue.map Prod.fst).Nodup
  fresh : ∀ l ∈ s.queue, Sweep.asked l ∉ front.map Round.asked
  known : ∀ p ∈ front.map Round.parent ++ s.queue.map Prod.fst, p ∈ root :: front.flatMap Round.ids

theorem ready_root (root : Value) : Ready root [] ⟨[(root, .null)], {}⟩ := by
  refine ⟨List.nodup_nil, ?_, ?_, ?_⟩ <;> simp

/-- What has not been asked for makes no listing a second one. -/
theorem Ready.nodup {round : Round} {rest : List (Value × Value)} (h : Ready root front s)
    (hhead : s.queue = round.listing :: rest) : ((front ++ [round]).map Round.asked).Nodup := by
  rw [List.map_append, List.map_singleton, List.nodup_append]
  refine ⟨h.once, List.nodup_singleton _, ?_⟩
  rintro _ hfront _ hround rfl
  rw [List.mem_singleton.1 hround] at hfront
  exact h.fresh round.listing (hhead ▸ List.mem_cons_self) hfront

/-- The blocks that a round puts into the queue are new: each was in no earlier reply, and is not the root. -/
theorem Ready.not_queued {round : Round} {rest : List (Value × Value)} {r : Except Fault Sweep}
    (h : Ready root front s) (hhead : s.queue = round.listing :: rest)
    (hlisted : Listed { s with queue := rest } round r) (hplaced : Placed root (front ++ [round])) :
    ∀ id ∈ round.visits.flatMap Visit.queued, id ∉ front.map Round.parent ++ s.queue.map Prod.fst := by
  intro id hid hold
  have hround := hlisted.queued_sublist.subset hid
  rcases List.mem_cons.1 (h.known id hold) with rfl | hmem
  · exact hplaced.root round (List.mem_append_right _ List.mem_cons_self) hround
  · obtain ⟨earlier, hearlier, hlist⟩ := List.mem_flatMap.1 hmem
    have hapart := (List.pairwise_append.1 hplaced.apart).2.2 earlier hearlier round List.mem_cons_self
    refine hapart (fun heq => ?_) hlist hround
    exact h.fresh round.listing (hhead ▸ List.mem_cons_self) (List.mem_map.2 ⟨earlier, hearlier, heq⟩)

/-- A round leaves a sweep so, when the part that its reply calls for has not been asked for. -/
theorem Ready.step {round : Round} {rest : List (Value × Value)} (h : Ready root front s)
    (hhead : s.queue = round.listing :: rest) (hlisted : Listed { s with queue := rest } round (.ok s'))
    (hs' : s'.result.stoppedEarly = false) (hplaced : Placed root (front ++ [round]))
    (hnext : ∀ l ∈ round.next?, Sweep.asked l ∉ (front ++ [round]).map Round.asked) :
    Ready root (front ++ [round]) s' := by
  have hqueued := h.not_queued hhead hlisted hplaced
  have hnodup : (round.visits.flatMap Visit.queued).Nodup :=
    hlisted.queued_sublist.nodup (hplaced.within round (List.mem_append_right _ List.mem_cons_self))
  have hparents : (round.parent :: rest.map Prod.fst).Nodup := by
    have hwaiting := h.parents
    rwa [hhead] at hwaiting
  have hwaits : s.queue.map Prod.fst = round.parent :: rest.map Prod.fst := by
    rw [hhead]
    rfl
  refine { once := h.nodup hhead, parents := ?_, fresh := fun l hl => ?_, known := fun p hp => ?_ }
  · have hfirsts : (round.next?.toList.map Prod.fst).Sublist [round.parent] := by
      cases hnext? : round.next? with
      | none => exact List.nil_sublist _
      | some l =>
        obtain ⟨_, next, -, -, rfl⟩ := Round.exists_of_next? hnext?
        exact .refl _
    have hall : ((round.parent :: rest.map Prod.fst) ++ round.visits.flatMap Visit.queued).Nodup := by
      refine List.nodup_append'.2 ⟨hparents, hnodup, fun p hp hid => ?_⟩
      exact hqueued p hid (List.mem_append_right _ (hwaits ▸ hp))
    refine List.Sublist.nodup ?_ hall
    have hmap : (round.visits.flatMap Visit.queued).map (Prod.fst ∘ fun id => (id, Value.null)) =
        round.visits.flatMap Visit.queued := List.map_id _
    rw [hlisted.queue_eq hs', List.map_append, List.map_append, List.map_map, hmap, ← List.singleton_append,
      List.append_assoc]
    exact hfirsts.append (.refl _)
  · rcases hlisted.mem_queue hs' hl with hl | hl | ⟨id, hid, rfl⟩
    · exact hnext l hl
    · rw [List.map_append, List.mem_append, List.map_singleton, List.mem_singleton]
      rintro (hold | heq)
      · exact h.fresh l (hhead ▸ List.mem_cons_of_mem _ hl) hold
      · refine (List.nodup_cons.1 hparents).1 ?_
        rw [show round.parent = l.1 from (congrArg Prod.fst heq).symm]
        exact List.mem_map_of_mem hl
    · intro hold
      obtain ⟨earlier, hearlier, heq⟩ := List.mem_map.1 hold
      obtain rfl : earlier.parent = id := congrArg Prod.fst heq
      refine hqueued _ hid ?_
      rcases List.mem_append.1 hearlier with hearlier | hearlier
      · exact List.mem_append_left _ (List.mem_map_of_mem hearlier)
      · rw [List.mem_singleton.1 hearlier, hwaits]
        exact List.mem_append_right _ List.mem_cons_self
  · have hold {p : Value} (hp : p ∈ front.map Round.parent ++ s.queue.map Prod.fst) :
        p ∈ root :: (front ++ [round]).flatMap Round.ids := by
      rw [List.flatMap_append]
      exact List.cons_subset_cons _ (List.subset_append_left _ _) (h.known p hp)
    have hround : round.parent ∈ root :: (front ++ [round]).flatMap Round.ids :=
      hold (List.mem_append_right _ (hwaits ▸ List.mem_cons_self))
    rcases List.mem_append.1 hp with hp | hp
    · rw [List.map_append, List.mem_append, List.map_singleton, List.mem_singleton] at hp
      rcases hp with hp | rfl
      · exact hold (List.mem_append_left _ hp)
      · exact hround
    · obtain ⟨l, hl, rfl⟩ := List.mem_map.1 hp
      rcases hlisted.mem_queue hs' hl with hl | hl | ⟨id, hid, rfl⟩
      · obtain ⟨_, next, -, -, rfl⟩ := Round.exists_of_next? hl
        exact hround
      · exact hold (List.mem_append_right _ (hwaits ▸ List.mem_cons_of_mem _ (List.mem_map_of_mem hl)))
      · refine List.mem_cons_of_mem _ (List.mem_flatMap.2 ⟨round, List.mem_append_right _ List.mem_cons_self, ?_⟩)
        exact hlisted.queued_sublist.subset hid

/-- A sweep that goes on only to parts not asked for asks for nothing twice. -/
theorem Sweeps.nodup_asked {n : Nat} {r : Except Fault Sweep} (h : Sweeps n s rounds r) (hready : Ready root front s)
    (hplaced : Placed root (front ++ rounds)) (hadvancing : Advancing (front ++ rounds)) :
    ((front ++ rounds).map Round.asked).Nodup := by
  induction h generalizing front with
  | done | spent => simpa using hready.once
  | @round n s s₁ rest rounds r round _ hhead hlisted hsweeps ih =>
    cases rounds with
    | nil => exact hready.nodup hhead
    | cons follower back =>
      have hsplit : front ++ round :: follower :: back = (front ++ [round]) ++ follower :: back := by simp
      have hstep : Ready root (front ++ [round]) s₁ := by
        have hfirst : (front ++ [round]).Sublist (front ++ round :: follower :: back) := by
          rw [hsplit]
          exact List.sublist_append_left _ _
        exact hready.step hhead hlisted hsweeps.not_stopped (hplaced.sublist hfirst)
          (hadvancing front round follower back rfl)
      rw [hsplit] at hplaced hadvancing ⊢
      exact ih hstep hplaced hadvancing
  | broken _ hhead => exact hready.nodup hhead

/-- Where nothing is asked for twice, no block is visited or put into the queue twice. -/
theorem Placed.once (hplaced : Placed root rounds) (hnodup : (rounds.map Round.asked).Nodup)
    (hvisited : ∀ round ∈ rounds, (round.visits.filterMap Visit.id?).Sublist round.ids) : Once root rounds := by
  have hvisits : ((rounds.flatMap Round.visits).filterMap Visit.id?).Nodup := by
    rw [List.filterMap_flatMap, List.nodup_flatMap]
    refine ⟨fun round hround => (hvisited round hround).nodup (hplaced.within round hround), ?_⟩
    refine ((List.pairwise_map.1 hnodup).and hplaced.apart).imp_of_mem fun hround hround' happart => ?_
    exact List.disjoint_of_subset_left (hvisited _ hround).subset
      (List.disjoint_of_subset_right (hvisited _ hround').subset (happart.2 happart.1))
  have hqueued := flatMap_queued_sublist (rounds.flatMap Round.visits)
  refine ⟨hnodup, hvisits, List.nodup_cons.2 ⟨fun hroot => ?_, hqueued.nodup hvisits⟩⟩
  have hmem := hqueued.subset hroot
  rw [List.filterMap_flatMap] at hmem
  obtain ⟨round, hround, hmem⟩ := List.mem_flatMap.1 hmem
  exact hplaced.root round hround ((hvisited round hround).subset hmem)

end Placed

/-! ## Finitely many pages -/

/-- How many parts replies out of these can make a sweep ask for: one for each block listed, or the root, and each
cursor given, or none. -/
def partsWithin (pages : List Value) : Nat := ((pages.flatMap idsOf).length + 1) * (pages.length + 1)

/-- A sweep that asks for nothing twice makes a bounded number of listings. -/
theorem Sweeps.length_le {n : Nat} {root : Value} {rounds : List Round} {r : Except Fault Sweep}
    (h : Sweeps n ⟨[(root, .null)], {}⟩ rounds r) (hnodup : (rounds.map Round.asked).Nodup) {pages : List Value}
    (hpages : ∀ round ∈ rounds, ∀ reply, round.answer = .ok reply → reply ∈ pages) :
    rounds.length ≤ partsWithin pages := by
  let parents := root :: pages.flatMap idsOf
  let cursors := Value.null :: pages.filterMap fun reply => (cursorOf? reply).map fun next => (asked (root, next)).2
  have hwithin : ∀ round ∈ rounds, round.listing.1 ∈ parents ∧ (asked round.listing).2 ∈ cursors := by
    refine h.forall_listing (p := fun l => l.1 ∈ parents ∧ (asked l).2 ∈ cursors) ?_ ?_ ?_
    · exact List.forall_mem_singleton.2 ⟨List.mem_cons_self, List.mem_cons_self⟩
    · intro round hround id hid
      obtain ⟨reply, hanswer, hid⟩ := Round.exists_of_mem_ids hid
      have hreply := hpages round hround reply hanswer
      exact ⟨List.mem_cons_of_mem _ (List.mem_flatMap.2 ⟨reply, hreply, hid⟩), List.mem_cons_self⟩
    · intro round hround hlisting l hl
      obtain ⟨reply, next, hanswer, hnext, rfl⟩ := Round.exists_of_next? hl
      have hreply := hpages round hround reply hanswer
      refine ⟨hlisting.1, List.mem_cons_of_mem _ (List.mem_filterMap.2 ⟨reply, hreply, ?_⟩)⟩
      rw [hnext]
      rfl
  have hsubset : rounds.map Round.asked ⊆ parents ×ˢ cursors := by
    intro l hl
    obtain ⟨round, hround, rfl⟩ := List.mem_map.1 hl
    exact List.mem_product.2 (hwithin round hround)
  calc rounds.length = (rounds.map Round.asked).length := (List.length_map _).symm
    _ ≤ (parents ×ˢ cursors).length := (List.subperm_of_subset hnodup hsubset).length_le
    _ = parents.length * cursors.length := List.length_product ..
    _ ≤ partsWithin pages := Nat.mul_le_mul_left _ (Nat.succ_le_succ (List.length_filterMap_le _ _))

/-! ## The whole sweep -/

variable {σ τ : Type} [Clock τ] {c : Clipper σ τ}

/-- A sweep over blocks that keep their places asks for nothing twice, and visits and queues no block twice, exactly
where its replies call only for parts not asked for; and then it comes to its end on any finite number of pages. What
it counts are its visits. -/
theorem run_advances (root : Value) (s : Session σ τ) :
    ∃ (rounds : List Round) (r : Except Fault Sweep),
      Session.Course c s (rounds.flatMap Round.deeds) (carryOut (run root) c s).2 ∧
      (∀ round ∈ rounds, ∀ v ∈ round.visits, v.Sound) ∧ Sweeps c.maxListings ⟨[(root, .null)], {}⟩ rounds r ∧
      (carryOut (run root) c s).1 = r.map Sweep.result ∧
      (∀ s', r = .ok s' → Gains {} s'.result (rounds.flatMap Round.visits) (rounds.countP Round.passedOver)
        (rounds.flatMap Round.deeds)) ∧
      (Placed root rounds →
        (Advancing rounds ↔ Once root rounds) ∧
        (Advancing rounds → ∀ pages, (∀ round ∈ rounds, ∀ reply, round.answer = .ok reply → reply ∈ pages) →
          rounds.length ≤ partsWithin pages ∧
          (partsWithin pages < c.maxListings → (∃ s', r = .ok s' ∧ s'.isOver = true) ∨
            ∃ f, r = .error f ∧ ∃ round, rounds.getLast? = some round ∧ round.Breaks f))) := by
  obtain ⟨_, hc, rounds, hsound, rfl, r, hsweeps, hr⟩ := run_follows root s
  refine ⟨rounds, r, hc, hsound, hsweeps, hr, ?_, fun hplaced => ?_⟩
  · rintro s' rfl
    exact hsweeps.gains hsound rfl
  have hnodup (hadvancing : Advancing rounds) : (rounds.map Round.asked).Nodup :=
    hsweeps.nodup_asked (ready_root root) hplaced hadvancing
  refine ⟨⟨fun hadvancing => hplaced.once (hnodup hadvancing) hsweeps.visited_sublist, fun honce => ?_⟩,
    fun hadvancing pages hpages => ?_⟩
  · rintro front round follower back rfl l hl hold
    have hnext := hsweeps.listing_eq hl
    have hlistings := honce.listings
    rw [show front ++ round :: follower :: back = (front ++ [round]) ++ follower :: back by simp, List.map_append,
      List.map_cons, List.nodup_append] at hlistings
    refine hlistings.2.2 _ hold _ List.mem_cons_self ?_
    rw [← hnext]
    rfl
  · have hfew := hsweeps.length_le (hnodup hadvancing) hpages
    exact ⟨hfew, fun hmore => hsweeps.finished (hfew.trans_lt hmore)⟩

section Page

theorem Round.reads_eq {round : Round} {p : Part} {reply : Value} (hanswer : round.answer = .ok reply)
    (hparent : round.parent = p.parent) (h : p.Reads reply) :
    round.ids = (p.blocks.map Tree.block).filterMap idOf? ∧
      round.next? = p.next?.map fun next => (p.parent, next) := by
  obtain ⟨hblocks, hnext⟩ := h
  refine ⟨by rw [Round.ids_of_ok hanswer, idsOf_of_ok hblocks], ?_⟩
  rw [Round.next?_of_ok hanswer, hparent]
  cases hp : p.next? with
  | none =>
    rw [hp] at hnext
    obtain ⟨more, hmore, hno⟩ := hnext
    simp [cursorOf?, hmore, hno, Except.toOption]
  | some next =>
    rw [hp] at hnext
    obtain ⟨⟨more, hmore, hyes⟩, hcursor⟩ := hnext
    simp [cursorOf?, hmore, hyes, hcursor, Except.toOption]

/-- The blocks of `page` keep their places in a sweep that lists it in its parts, and no part is called for twice. -/
theorem page_placed {rounds : List Round} (hcalm : Calm pageCuts rounds)
    (hlistings : rounds.map Round.listing = (page.parts pageCuts).map Part.listing) :
    Placed page.id rounds ∧ Advancing rounds := by
  rw [Tree.parts, page_parents] at hlistings
  obtain ⟨first, rest, rfl, hfirst, hrest⟩ := List.map_eq_cons_iff.1 hlistings
  obtain ⟨second, rest, rfl, hsecond, hrest⟩ := List.map_eq_cons_iff.1 hrest
  obtain ⟨third, rest, rfl, hthird, hrest⟩ := List.map_eq_cons_iff.1 hrest
  obtain rfl := List.map_eq_nil_iff.1 hrest
  have hreads {round : Round} (hround : round ∈ [first, second, third]) {p : Part}
      (hp : p ∈ Tree.partsFrom p.parent (pageCuts p.parent)) (hl : round.listing = p.listing) :
      round.ids = (p.blocks.map Tree.block).filterMap idOf? ∧
        round.next? = p.next?.map fun next => (p.parent, next) := by
    have hparent : round.parent = p.parent := congrArg Prod.fst hl
    obtain ⟨reply, hanswer, hp⟩ := hcalm.served round hround p (hparent ▸ hp) (congrArg Prod.snd hl).symm
    exact Round.reads_eq hanswer hparent hp
  obtain ⟨hids₁, hnext₁⟩ := hreads (by simp) (by exact List.mem_cons_self) hfirst
  obtain ⟨hids₂, hnext₂⟩ := hreads (by simp) (by exact List.mem_cons_of_mem _ List.mem_cons_self) hsecond
  obtain ⟨hids₃, -⟩ := hreads (by simp) (by exact List.mem_cons_self) hthird
  replace hnext₁ : first.next? = some (.text "p", .text "next") := hnext₁
  replace hnext₂ : second.next? = none := hnext₂
  replace hids₁ : first.ids = [.text "t"] := hids₁
  replace hids₂ : second.ids = [.text "y"] := hids₂
  replace hids₃ : third.ids = [.text "x"] := hids₃
  have hroot : page.id = .text "p" := rfl
  refine ⟨⟨?_, ?_, ?_⟩, ?_⟩
  · simp [hids₁, hids₂, hids₃, hroot]
  · simp [hids₁, hids₂, hids₃]
  · simp [hids₁, hids₂, hids₃]
  · rintro front round follower back heq l hl
    rcases front with _ | ⟨_, _ | ⟨_, front⟩⟩
    · obtain ⟨rfl, -⟩ := List.cons.inj heq
      rw [hnext₁] at hl
      obtain rfl := Option.some.inj hl
      have hasked : first.asked = (.text "p", .null) := by
        rw [Round.asked, hfirst]
        rfl
      simp [hasked, asked, Value.truthy]
    · obtain ⟨-, heq⟩ := List.cons.inj heq
      obtain ⟨rfl, -⟩ := List.cons.inj heq
      rw [hnext₂] at hl
      cases hl
    · have hlength := congrArg List.length heq
      simp at hlength
      omega

/-- The parts of `page` are asked for once each, and its blocks visited once each. -/
theorem page_advances :
    ∃ (rounds : List Round) (pages : List Value),
      Session.Course pageClipper Image.hospitableSession (rounds.flatMap Round.deeds)
        (carryOut (run page.id) pageClipper Image.hospitableSession).2 ∧
      Placed page.id rounds ∧ Advancing rounds ∧ Once page.id rounds ∧
      (∀ round ∈ rounds, ∀ reply, round.answer = .ok reply → reply ∈ pages) ∧ rounds.length ≤ partsWithin pages ∧
      (carryOut (run page.id) pageClipper Image.hospitableSession).1 = .ok ⟨2, 1, 1, 3, false⟩ := by
  obtain ⟨rounds, r, hc, hsound, hsweeps, hr, -, hplaces⟩ :=
    run_advances (c := pageClipper) page.id Image.hospitableSession
  have hcalm : Calm pageCuts rounds := by
    rw [page_result] at hr
    cases r with
    | error => cases hr
    | ok s' =>
      refine calm_of_serves page_serves hc hsound hsweeps rfl ?_
      rw [← Except.ok.inj hr]
  have hlistings : rounds.map Round.listing = (page.parts pageCuts).map Part.listing := by
    have hdue : ∀ p ∈ [page.pending pageCuts], Pending.Due page pageCuts p :=
      List.forall_mem_singleton.2 (due_pending page_served List.mem_cons_self)
    have hbound := page_parts
    rw [← remaining_root page_served] at hbound ⊢
    exact (hsweeps.covers page_served rfl rfl hdue hbound hcalm).2.1
  obtain ⟨hplaced, hadvancing⟩ := page_placed hcalm hlistings
  obtain ⟨honce, hfinite⟩ := hplaces hplaced
  have hpages : ∀ round ∈ rounds, ∀ reply, round.answer = .ok reply →
      reply ∈ rounds.filterMap fun round => round.answer.toOption :=
    fun round hround reply hanswer => List.mem_filterMap.2 ⟨round, hround, by rw [hanswer]; rfl⟩
  exact ⟨rounds, _, hc, hplaced, hadvancing, honce.1 hadvancing, hpages, (hfinite hadvancing _ hpages).1, page_result⟩

/-- A service that lists the same block in every reply and tells of more in the first, but not where. It keeps what has
been asked for. -/
def circling : Outside (List (Value × Value)) Int where
  now _ := 0
  date _ := ""
  ask r asked := match r with
    | .children parent _ cursor =>
      (.answer (.record [("results", .list [.record [("id", .text "x"), ("type", .text "paragraph")]]),
        ("has_more", .bool asked.isEmpty), ("next_cursor", .null)]), asked ++ [(parent, cursor)])
    | _ => (.silence, asked)
  upload _ asked := (.silence, asked)
  fetch _ asked := (.silence, asked)
  finish urls := List.range urls.length

/-- A clipper of that service. -/
def circlingClipper : Clipper (List (Value × Value)) Int := { outside := circling, settings := {}, token := "" }

/-- The first part of the page is asked for twice, and the one block of the page visited twice. -/
theorem part_relisted :
    (carryOut (run (.text "p")) circlingClipper { outside := [], budget := { perMinute := 60 } }).1 =
        .ok { visited := 2 } ∧
      (carryOut (run (.text "p")) circlingClipper { outside := [], budget := { perMinute := 60 } }).2.outside =
        [(.text "p", .null), (.text "p", .null)] :=
  ⟨by rfl, by rfl⟩

end Page

end Sweep

end WebClip
