import Mathlib.Data.List.Nodup
import WebClip.Proofs.Tallies
import WebClip.Proofs.Trees
/-!
# What a sweep covers

The blocks right under each block of a page are listed in parts, each part telling where the next
one starts. Over such a page, with no error of the whole document, a sweep lists every part once,
breadth first, visits every block once and attempts exactly the images at URLs of their own.
-/

namespace WebClip

open Act

/-! ## Parts of a page -/

/-- A part of the blocks right under a block: from a cursor on, and where the next part starts. -/
structure Part where
  parent : Value
  cursor : Value
  blocks : List Tree
  next? : Option Value

namespace Part

/-- The listing that asks for the part. -/
def listing (p : Part) : Value × Value := (p.parent, p.cursor)

/-- Whether a reply lists the part and tells where the next one starts, if there is one. -/
def Reads (p : Part) (reply : Value) : Prop :=
  Sweep.blocksOf reply = .ok (p.blocks.map Tree.block) ∧
    match p.next? with
    | none => ∃ more, Reply.get reply "has_more" = .ok more ∧ more.truthy = false
    | some next => (∃ more, Reply.get reply "has_more" = .ok more ∧ more.truthy = true) ∧
      Reply.get reply "next_cursor" = .ok next

end Part

namespace Tree

/-- The parts of the blocks right under a block, by the cursors at which they start. -/
def partsFrom (parent : Value) : List (Value × List Tree) → List Part
  | [] => []
  | (cursor, blocks) :: rest => ⟨parent, cursor, blocks, rest.head?.map (·.1)⟩ :: partsFrom parent rest

/-- The parts to be listed of a tree. -/
def parts (root : Tree) (cuts : Value → List (Value × List Tree)) : List Part :=
  root.parents.flatMap fun t => partsFrom t.id (cuts t.id)

/-- The block can be read, and says whether there are blocks under it. -/
structure Readable (t : Tree) : Prop where
  id : Reply.require t.block "id" = .ok t.id
  children : ∃ v, Reply.get t.block "has_children" = .ok v ∧ v.truthy = t.isInner
  image : ∃ b, Reply.isExternalImage t.block = .ok b

/-- The blocks of a tree have ids of their own and can be read, and those right under each are cut
into parts: the first without a cursor and the others at new ones. -/
structure Served (root : Tree) (cuts : Value → List (Value × List Tree)) : Prop where
  distinct : ((root :: root.descendants).map id).Nodup
  readable : ∀ t ∈ root.descendants, t.Readable
  whole : ∀ t ∈ root.parents, (cuts t.id).flatMap (·.2) = t.children
  first : ∀ t ∈ root.parents, (cuts t.id).head?.map (·.1) = some .null
  fresh : ∀ t ∈ root.parents, ((cuts t.id).map (·.1)).Nodup

end Tree

/-! ## What is left to list -/

/-- A listing that a sweep waits to make, and those that follow it under the same block. -/
abbrev Pending := Value × List (Value × List Tree)

namespace Pending

/-- Where it stands in the queue. -/
def entry (p : Pending) : Value × Value := (p.1, (p.2.head?.map (·.1)).getD .null)

/-- The blocks that it lists. -/
def blocks (p : Pending) : List Tree := p.2.flatMap (·.2)

/-- What is left after its first part. -/
def rest (parent : Value) : List (Value × List Tree) → List Pending
  | [] => []
  | cuts => [(parent, cuts)]

/-- It is what is left of the parts right under a block of the tree. -/
def Due (root : Tree) (cuts : Value → List (Value × List Tree)) (p : Pending) : Prop :=
  ∃ t ∈ root.parents, p.1 = t.id ∧ p.2 ≠ [] ∧ p.2 <:+ cuts t.id

theorem flatMap_blocks_rest (parent : Value) (cuts : List (Value × List Tree)) :
    (rest parent cuts).flatMap blocks = cuts.flatMap (·.2) := by
  cases cuts with
  | nil => rfl
  | cons => exact List.append_nil _

theorem flatMap_parts_rest (parent : Value) (cuts : List (Value × List Tree)) :
    (rest parent cuts).flatMap (fun p => Tree.partsFrom p.1 p.2) = Tree.partsFrom parent cuts := by
  cases cuts with
  | nil => rfl
  | cons => exact List.append_nil _

end Pending

section Remaining
variable (cuts : Value → List (Value × List Tree))

/-- What a block with blocks under it adds to the queue. -/
def Tree.pending (t : Tree) : Pending := (t.id, cuts t.id)

/-- The parts still to be listed: those that wait, and those of the blocks that they list, breadth first. -/
def remaining (ps : List Pending) : List Part :=
  ps.flatMap (fun p => Tree.partsFrom p.1 p.2) ++
    ((Tree.breadthFirst (ps.flatMap Pending.blocks)).filter Tree.isInner).flatMap fun t =>
      Tree.partsFrom t.id (cuts t.id)

variable {cuts} {parent cursor : Value} {ts : List Tree} {more : List (Value × List Tree)} {ps : List Pending}

/-- The queue once a part has been listed: what follows it comes first, and what is under its blocks last. -/
def after (cuts : Value → List (Value × List Tree)) (parent : Value) (more : List (Value × List Tree))
    (ps : List Pending) (ts : List Tree) : List Pending :=
  Pending.rest parent more ++ ps ++ (ts.filter Tree.isInner).map (Tree.pending cuts)

theorem breadthFirst_pending (hwhole : ∀ t ∈ ts, t.isInner = true → (cuts t.id).flatMap (·.2) = t.children) :
    Tree.breadthFirst (((parent, (cursor, ts) :: more) :: ps).flatMap Pending.blocks) =
      ts ++ Tree.breadthFirst ((after cuts parent more ps ts).flatMap Pending.blocks) := by
  have hchildren : ((ts.filter Tree.isInner).map (Tree.pending cuts)).flatMap Pending.blocks =
      ts.flatMap Tree.children := by
    rw [List.flatMap_map, ← Tree.flatMap_children_inner]
    refine List.flatMap_congr fun t ht => ?_
    exact hwhole t (List.mem_filter.1 ht).1 (List.mem_filter.1 ht).2
  rw [after, List.flatMap_append, List.flatMap_append, Pending.flatMap_blocks_rest, hchildren,
    ← Tree.breadthFirst_append, List.flatMap_cons, Pending.blocks, List.flatMap_cons, List.append_assoc]

theorem remaining_cons (hwhole : ∀ t ∈ ts, t.isInner = true → (cuts t.id).flatMap (·.2) = t.children) :
    remaining cuts ((parent, (cursor, ts) :: more) :: ps) =
      ⟨parent, cursor, ts, more.head?.map (·.1)⟩ :: remaining cuts (after cuts parent more ps ts) := by
  have hparts : (after cuts parent more ps ts).flatMap (fun p => Tree.partsFrom p.1 p.2) =
      Tree.partsFrom parent more ++ ps.flatMap (fun p => Tree.partsFrom p.1 p.2) ++
        (ts.filter Tree.isInner).flatMap fun t => Tree.partsFrom t.id (cuts t.id) := by
    rw [after, List.flatMap_append, List.flatMap_append, Pending.flatMap_parts_rest, List.flatMap_map]
    rfl
  rw [remaining, remaining, hparts, breadthFirst_pending hwhole, List.filter_append, List.flatMap_append,
    List.flatMap_cons, Tree.partsFrom]
  simp only [List.cons_append, List.append_assoc]

/-- Nothing is left to list only when nothing waits. -/
theorem eq_nil_of_remaining (hps : ∀ p ∈ ps, p.2 ≠ []) (h : remaining cuts ps = []) : ps = [] := by
  cases ps with
  | nil => rfl
  | cons p rest =>
    obtain ⟨parent, _ | ⟨⟨cursor, ts⟩, more⟩⟩ := p
    · exact absurd rfl (hps _ List.mem_cons_self)
    · simp [remaining, Tree.partsFrom] at h

theorem remaining_nil : remaining cuts [] = [] := by
  rw [remaining, List.flatMap_nil, List.flatMap_nil, Tree.breadthFirst_nil]
  rfl

end Remaining

/-! ## Reading a page -/

namespace Sweep

variable {s : Sweep}

/-- A readable block asks for a listing exactly when there are blocks under it. -/
theorem listingsOf_readable {t : Tree} (h : t.Readable) :
    listingsOf t.block = .ok (if t.isInner = true then [(t.id, .null)] else []) := by
  obtain ⟨v, hget, hv⟩ := h.children
  rw [listingsOf, hget]
  simp only [bind, Except.bind, hv, h.id]
  split <;> rfl

/-- An attempt that has failed has done so with an error that is passed over. -/
def Visit.Passing (v : Visit) : Prop :=
  ∀ f, v.outcome? = some (.error f) → ∃ e, f = .clip e ∧ e.kind.stopsAll = false

theorem Seen.of_readable {t : Tree} (ht : t.Readable) {v : Visit} (hv : v.block = t.block) (hpass : v.Passing)
    (hs : s.result.stoppedEarly = false) {r : Except Fault Sweep} (h : Seen s v r) :
    ∃ s', r = .ok s' ∧ s'.result.stoppedEarly = false ∧
      s'.queue = s.queue ++ ([t].filter Tree.isInner).map fun t => (t.id, .null) := by
  have hlistings := listingsOf_readable ht
  have hqueue {ls : List (Value × Value)} (hl : listingsOf v.block = .ok ls) :
      (s.entered ls).queue = s.queue ++ ([t].filter Tree.isInner).map fun t => (t.id, .null) := by
    rw [hv, hlistings] at hl
    cases hl
    cases hi : t.isInner <;> simp [entered, hi]
  obtain ⟨b, himage⟩ := ht.image
  cases h with
  | unread _ hf =>
    rw [hv, hlistings, himage] at hf
    rcases hf with hf | hf <;> cases hf
  | passed hl => exact ⟨_, rfl, hs, hqueue hl⟩
  | moved hl => exact ⟨_, rfl, hs, hqueue hl⟩
  | failed hl => exact ⟨_, rfl, hs, hqueue hl⟩
  | stopped _ ho hstops =>
    obtain ⟨e, he, hnot⟩ := hpass _ ho
    cases he
    rw [hstops] at hnot
    cases hnot
  | nameless _ _ hid =>
    rw [hv, ht.id] at hid
    cases hid
  | broken ho hf =>
    obtain ⟨e, rfl, -⟩ := hpass _ ho
    exact absurd rfl (hf e)

theorem SeenAll.of_readable {ts : List Tree} (hts : ∀ t ∈ ts, t.Readable) {vs : List Visit}
    (hpass : ∀ v ∈ vs, v.Passing) (hs : s.result.stoppedEarly = false) {r : Except Fault Sweep}
    (h : SeenAll s (ts.map Tree.block) vs r) :
    vs.map Visit.block = ts.map Tree.block ∧ ∃ s', r = .ok s' ∧ s'.result.stoppedEarly = false ∧
      s'.queue = s.queue ++ (ts.filter Tree.isInner).map fun t => (t.id, .null) := by
  generalize hblocks : ts.map Tree.block = blocks at h
  induction h generalizing ts with
  | nil =>
    obtain rfl := List.map_eq_nil_iff.1 hblocks
    exact ⟨rfl, _, rfl, hs, by simp⟩
  | @cons s s₁ v blocks vs r hseen hs₁ _ ih =>
    obtain ⟨t, rest, rfl, hblock, rfl⟩ := List.map_eq_cons_iff.1 hblocks
    obtain ⟨ht, hts⟩ := List.forall_mem_cons.1 hts
    obtain ⟨hv, hvs⟩ := List.forall_mem_cons.1 hpass
    obtain ⟨_, ⟨⟩, -, hqueue⟩ := hseen.of_readable ht hblock.symm hv hs
    obtain ⟨hmap, s', rfl, hs', hqueue'⟩ := ih hts hvs hs₁ rfl
    refine ⟨by rw [List.map_cons, hmap, ← hblock], s', rfl, hs', ?_⟩
    rw [hqueue', hqueue, List.append_assoc, ← List.map_append, ← List.filter_append, List.singleton_append]
  | @stopped s s₁ v blocks hseen hs₁ =>
    obtain ⟨t, rest, rfl, hblock, rfl⟩ := List.map_eq_cons_iff.1 hblocks
    have ht := hts t List.mem_cons_self
    obtain ⟨_, ⟨⟩, hgoes, -⟩ := hseen.of_readable ht hblock.symm (hpass v List.mem_cons_self) hs
    rw [hs₁] at hgoes
    cases hgoes
  | @broken s v blocks f hseen =>
    obtain ⟨t, rest, rfl, hblock, rfl⟩ := List.map_eq_cons_iff.1 hblocks
    have ht := hts t List.mem_cons_self
    obtain ⟨_, ⟨⟩, -⟩ := hseen.of_readable ht hblock.symm (hpass v List.mem_cons_self) hs

/-- The listing that asks for the part a round has listed. -/
def Round.listing (r : Round) : Value × Value := (r.parent, r.cursor)

theorem continueListing_reads {p : Part} {reply : Value} (h : p.Reads reply) :
    continueListing p.parent reply s =
      .ok { s with queue := (p.next?.map fun next => (p.parent, next)).toList ++ s.queue } := by
  obtain ⟨parent, cursor, blocks, next⟩ := p
  obtain ⟨-, hnext⟩ := h
  cases next with
  | none =>
    obtain ⟨more, hmore, hno⟩ := hnext
    simp only [continueListing, hmore, bind, Except.bind, hno]
    rfl
  | some next =>
    obtain ⟨⟨more, hmore, hyes⟩, hcursor⟩ := hnext
    simp only [continueListing, hmore, bind, Except.bind, hyes, hcursor]
    rfl

theorem Listed.of_reads {p : Part} (hp : ∀ t ∈ p.blocks, t.Readable) {round : Round}
    (hparent : round.parent = p.parent) {reply : Value} (hanswer : round.answer = .ok reply) (hreads : p.Reads reply)
    (hpass : ∀ v ∈ round.visits, v.Passing) (hs : s.result.stoppedEarly = false) {r : Except Fault Sweep}
    (h : Listed s round r) :
    round.visits.map Visit.block = p.blocks.map Tree.block ∧ ∃ s', r = .ok s' ∧ s'.result.stoppedEarly = false ∧
      s'.queue = (p.next?.map fun next => (p.parent, next)).toList ++ (s.queue ++
        (p.blocks.filter Tree.isInner).map fun t => (t.id, .null)) := by
  have hall {reply' : Value} {blocks : List Value} {r' : Except Fault Sweep} (ha : round.answer = .ok reply')
      (hb : blocksOf reply' = .ok blocks) (hall : SeenAll s blocks round.visits r') : reply' = reply ∧
      round.visits.map Visit.block = p.blocks.map Tree.block ∧ ∃ s', r' = .ok s' ∧ s'.result.stoppedEarly = false ∧
        s'.queue = s.queue ++ (p.blocks.filter Tree.isInner).map fun t => (t.id, .null) := by
    rw [hanswer] at ha
    cases ha
    rw [hreads.1] at hb
    cases hb
    exact ⟨rfl, hall.of_readable hp hpass hs⟩
  cases h with
  | read ha hb hseen =>
    obtain ⟨rfl, hmap, s', ⟨⟩, hs', hqueue⟩ := hall ha hb hseen
    rw [hparent, continueListing_reads hreads]
    exact ⟨hmap, _, rfl, hs', by rw [← hqueue]⟩
  | stopped ha hb hseen hstop =>
    obtain ⟨-, -, s', ⟨⟩, hs', -⟩ := hall ha hb hseen
    rw [hstop] at hs'
    cases hs'
  | broken ha hb hseen =>
    obtain ⟨-, -, s', ⟨⟩, -⟩ := hall ha hb hseen
  | unread ha hb =>
    rw [hanswer] at ha
    cases ha
    rw [hreads.1] at hb
    cases hb
  | refused ha => rw [hanswer] at ha; cases ha
  | failed ha => rw [hanswer] at ha; cases ha
  | crashed ha => rw [hanswer] at ha; cases ha

/-! ## Covering a page -/

/-- No listing fails, and every part asked for is listed as the page has it; what fails beside that
is passed over. -/
structure Calm (cuts : Value → List (Value × List Tree)) (rounds : List Round) : Prop where
  served : ∀ round ∈ rounds, ∀ p ∈ Tree.partsFrom round.parent (cuts round.parent), p.cursor = round.cursor →
    ∃ reply, round.answer = .ok reply ∧ p.Reads reply
  passing : ∀ round ∈ rounds, ∀ v ∈ round.visits, v.Passing

theorem mem_partsFrom_of_suffix {parent cursor : Value} {ts : List Tree} {more all : List (Value × List Tree)}
    (h : ((cursor, ts) :: more) <:+ all) :
    ⟨parent, cursor, ts, more.head?.map (·.1)⟩ ∈ Tree.partsFrom parent all := by
  obtain ⟨before, rfl⟩ := h
  induction before with
  | nil => exact List.mem_cons_self
  | cons x rest ih => exact List.mem_cons_of_mem _ ih

section Served
variable {root : Tree} {cuts : Value → List (Value × List Tree)} (hserved : root.Served cuts) {parent cursor : Value}
  {ts : List Tree} {more : List (Value × List Tree)} {ps : List Pending}
include hserved

/-- The blocks that are waited for are blocks of the tree. -/
theorem mem_descendants_of_due {p : Pending} (hp : Pending.Due root cuts p) : ∀ t ∈ p.blocks, t ∈ root.descendants := by
  obtain ⟨u, hu, -, -, hsuffix⟩ := hp
  intro t ht
  obtain ⟨cut, hcut, ht⟩ := List.mem_flatMap.1 ht
  have hchild : t ∈ u.children := hserved.whole u hu ▸ List.mem_flatMap.2 ⟨cut, hsuffix.mem hcut, ht⟩
  exact Tree.mem_descendants hu hchild

theorem due_pending {t : Tree} (ht : t ∈ root.parents) : Pending.Due root cuts (t.pending cuts) := by
  refine ⟨t, ht, rfl, fun hnil => ?_, List.suffix_rfl⟩
  have hfirst := hserved.first t ht
  rw [show cuts t.id = [] from hnil] at hfirst
  cases hfirst

theorem entry_pending {t : Tree} (ht : t ∈ root.parents) : (t.pending cuts).entry = (t.id, .null) := by
  rw [Pending.entry, Tree.pending, hserved.first t ht]
  rfl

theorem due_after (hps : ∀ p ∈ (parent, (cursor, ts) :: more) :: ps, Pending.Due root cuts p) :
    ∀ p ∈ after cuts parent more ps ts, Pending.Due root cuts p := by
  obtain ⟨hdue, hps⟩ := List.forall_mem_cons.1 hps
  have hts : ∀ t ∈ ts, t ∈ root.descendants := fun t ht =>
    mem_descendants_of_due hserved hdue t (List.mem_flatMap.2 ⟨_, List.mem_cons_self, ht⟩)
  obtain ⟨u, hu, hid, -, hsuffix⟩ := hdue
  intro p hp
  simp only [after, List.mem_append] at hp
  rcases hp with (hp | hp) | hp
  · cases more with
    | nil => cases hp
    | cons cut more =>
      obtain rfl := List.mem_singleton.1 hp
      exact ⟨u, hu, hid, List.cons_ne_nil _ _, (List.suffix_cons _ _).trans hsuffix⟩
  · exact hps p hp
  · obtain ⟨t, ht, rfl⟩ := List.mem_map.1 hp
    obtain ⟨ht, hi⟩ := List.mem_filter.1 ht
    exact due_pending hserved (Tree.mem_parents (hts t ht) hi)

theorem entries_after (hts : ∀ t ∈ ts, t ∈ root.descendants) :
    (after cuts parent more ps ts).map Pending.entry =
      ((more.head?.map (·.1)).map fun next => (parent, next)).toList ++ (ps.map Pending.entry ++
        (ts.filter Tree.isInner).map fun t => (t.id, .null)) := by
  have hrest : (Pending.rest parent more).map Pending.entry =
      ((more.head?.map (·.1)).map fun next => (parent, next)).toList := by
    cases more <;> rfl
  have hinner : ((ts.filter Tree.isInner).map (Tree.pending cuts)).map Pending.entry =
      (ts.filter Tree.isInner).map fun t => (t.id, .null) := by
    rw [List.map_map]
    refine List.map_congr_left fun t ht => ?_
    obtain ⟨ht, hi⟩ := List.mem_filter.1 ht
    exact entry_pending hserved (Tree.mem_parents (hts t ht) hi)
  rw [after, List.map_append, List.map_append, hrest, hinner, List.append_assoc]

/-- A round lists the first of the parts that are left and leaves the others. -/
theorem Listed.of_due {s : Sweep} {rest : List (Value × Value)} {round : Round} {r : Except Fault Sweep}
    (hs : s.result.stoppedEarly = false) (hqueue : s.queue = ps.map Pending.entry)
    (hdue : ∀ p ∈ ps, Pending.Due root cuts p) (hcalm : Calm cuts [round])
    (hhead : s.queue = (round.parent, round.cursor) :: rest) (h : Listed { s with queue := rest } round r) :
    ∃ p ps', remaining cuts ps = p :: remaining cuts ps' ∧ p.listing = round.listing ∧
      Tree.breadthFirst (ps.flatMap Pending.blocks) = p.blocks ++ Tree.breadthFirst (ps'.flatMap Pending.blocks) ∧
      round.visits.map Visit.block = p.blocks.map Tree.block ∧ (∀ p ∈ ps', Pending.Due root cuts p) ∧
      ∃ s', r = .ok s' ∧ s'.result.stoppedEarly = false ∧ s'.queue = ps'.map Pending.entry := by
  rw [hqueue] at hhead
  obtain ⟨⟨parent, all⟩, ps, rfl, hentry, rfl⟩ := List.map_eq_cons_iff.1 hhead
  obtain ⟨u, hu, hid, hne, hsuffix⟩ := hdue _ List.mem_cons_self
  obtain ⟨⟨cursor, ts⟩, more, rfl⟩ := List.exists_cons_of_ne_nil hne
  obtain ⟨rfl, rfl⟩ := Prod.mk.inj hentry
  have hts : ∀ t ∈ ts, t ∈ root.descendants := fun t ht =>
    mem_descendants_of_due hserved (hdue _ List.mem_cons_self) t (List.mem_flatMap.2 ⟨_, List.mem_cons_self, ht⟩)
  have hwhole : ∀ t ∈ ts, t.isInner = true → (cuts t.id).flatMap (·.2) = t.children :=
    fun t ht hi => hserved.whole t (Tree.mem_parents (hts t ht) hi)
  have hmem : ⟨round.parent, round.cursor, ts, more.head?.map (·.1)⟩ ∈
      Tree.partsFrom round.parent (cuts round.parent) := by
    rw [show round.parent = u.id from hid]
    exact mem_partsFrom_of_suffix hsuffix
  obtain ⟨reply, hanswer, hreads⟩ := hcalm.served round List.mem_cons_self _ hmem rfl
  have hgoes : ({ s with queue := ps.map Pending.entry } : Sweep).result.stoppedEarly = false := hs
  obtain ⟨hblocks, s', rfl, hs', hqueue'⟩ := Listed.of_reads (fun t ht => hserved.readable t (hts t ht)) rfl hanswer
    hreads (hcalm.passing round List.mem_cons_self) hgoes h
  exact ⟨_, _, remaining_cons hwhole, rfl, breadthFirst_pending hwhole, hblocks, due_after hserved hdue, s', rfl, hs',
    hqueue'.trans (entries_after hserved hts).symm⟩

theorem Sweeps.covers {n : Nat} {s : Sweep} {rounds : List Round} {r : Except Fault Sweep} (h : Sweeps n s rounds r)
    (hs : s.result.stoppedEarly = false) (hqueue : s.queue = ps.map Pending.entry)
    (hdue : ∀ p ∈ ps, Pending.Due root cuts p) (hbound : (remaining cuts ps).length ≤ n) (hcalm : Calm cuts rounds) :
    (∃ s', r = .ok s' ∧ s'.result.stoppedEarly = false) ∧
      rounds.map Round.listing = (remaining cuts ps).map Part.listing ∧
      (rounds.flatMap Round.visits).map Visit.block =
        (Tree.breadthFirst (ps.flatMap Pending.blocks)).map Tree.block := by
  have hnone {ps : List Pending} (hps : ps = []) :
      ([] : List Round).map Round.listing = (remaining cuts ps).map Part.listing ∧
      (([] : List Round).flatMap Round.visits).map Visit.block =
        (Tree.breadthFirst (ps.flatMap Pending.blocks)).map Tree.block := by
    subst hps
    simp [remaining_nil, Tree.breadthFirst_nil]
  induction h generalizing ps with
  | done hover =>
    have hps : ps = [] := by simpa [isOver, hs, hqueue] using hover
    exact ⟨⟨_, rfl, hs⟩, hnone hps⟩
  | spent hgoes =>
    have hnothing : remaining cuts ps = [] := List.length_eq_zero_iff.1 (Nat.le_zero.1 hbound)
    have hps := eq_nil_of_remaining (fun p hp => (hdue p hp).choose_spec.2.2.1) hnothing
    simp [isOver, hqueue, hps] at hgoes
  | @round n s s₁ rest rounds r round hover hhead hlisted hsweeps ih =>
    have hround : Calm cuts [round] :=
      ⟨by simpa using hcalm.served round List.mem_cons_self, by simpa using hcalm.passing round List.mem_cons_self⟩
    have hrounds : Calm cuts rounds :=
      ⟨fun r hr => hcalm.served r (List.mem_cons_of_mem _ hr), fun r hr => hcalm.passing r (List.mem_cons_of_mem _ hr)⟩
    obtain ⟨p, ps', hremaining, hlisting, hbreadth, hvisits, hdue', _, ⟨⟩, hs₁, hqueue'⟩ :=
      hlisted.of_due hserved hs hqueue hdue hround hhead
    rw [hremaining, List.length_cons, Nat.succ_le_succ_iff] at hbound
    obtain ⟨hreturns, hlistings, hblocks⟩ := ih hs₁ hqueue' hdue' hbound hrounds
    refine ⟨hreturns, ?_, ?_⟩
    · rw [hremaining, List.map_cons, List.map_cons, hlisting, hlistings]
    · rw [hbreadth, List.flatMap_cons, List.map_append, List.map_append, hvisits, hblocks]
  | @broken n s rest f round hover hhead hlisted =>
    obtain ⟨-, -, -, -, -, -, -, _, ⟨⟩, -⟩ := hlisted.of_due hserved hs hqueue hdue hcalm hhead

theorem remaining_root : remaining cuts [root.pending cuts] = root.parts cuts := by
  have hwhole : (cuts root.id).flatMap (·.2) = root.children := hserved.whole root List.mem_cons_self
  rw [remaining, Tree.parts, Tree.parents, List.flatMap_cons, List.flatMap_cons, List.flatMap_nil, List.flatMap_nil,
    List.append_nil, List.append_nil, Pending.blocks, Tree.pending, hwhole, List.flatMap_cons]

/-- No part is listed twice. -/
theorem nodup_listings : ((root.parts cuts).map Part.listing).Nodup := by
  have hlisting (parent : Value) (cut : List (Value × List Tree)) :
      (Tree.partsFrom parent cut).map Part.listing = cut.map fun x => (parent, x.1) := by
    induction cut with
    | nil => rfl
    | cons x rest ih => rw [Tree.partsFrom, List.map_cons, List.map_cons, ih]; rfl
  have hids : (root.parents.map Tree.id).Nodup := by
    have hperm := (Tree.breadthFirst_perm root.children).cons root
    rw [← Tree.descendants_eq] at hperm
    exact ((List.filter_sublist.cons_cons root).map Tree.id).nodup ((hperm.map Tree.id).nodup_iff.2 hserved.distinct)
  rw [Tree.parts, List.map_flatMap, List.nodup_flatMap]
  refine ⟨fun t ht => ?_, (List.pairwise_map.1 hids).imp fun hne => ?_⟩
  · rw [hlisting]
    refine List.Nodup.of_map Prod.snd ?_
    rw [List.map_map]
    exact hserved.fresh t ht
  · intro l hl hl'
    dsimp only at hl hl'
    rw [hlisting] at hl hl'
    obtain ⟨_, -, rfl⟩ := List.mem_map.1 hl
    obtain ⟨_, -, heq⟩ := List.mem_map.1 hl'
    exact hne (Prod.mk.inj heq).1.symm

end Served

/-- Whether a block is an image at a URL of its own. -/
def isExternal (block : Value) : Bool :=
  match Reply.isExternalImage block with
  | .ok b => b
  | .error _ => false

theorem isExternal_iff {block : Value} : isExternal block = true ↔ Reply.isExternalImage block = .ok true := by
  unfold isExternal
  cases Reply.isExternalImage block <;> simp

/-- The sweep returns, lists every part once, breadth first, visits every block once and attempts
exactly the images at URLs of their own, in that order. -/
structure Covers (root : Tree) (cuts : Value → List (Value × List Tree)) (rounds : List Round)
    (r : Except Fault SweepResult) : Prop where
  returns : ∃ result, r = .ok result ∧ result.visited = root.descendants.length ∧ result.stoppedEarly = false
  listings : rounds.map Round.listing = (root.parts cuts).map Part.listing
  once : (rounds.map Round.listing).Nodup
  visits : (rounds.flatMap Round.visits).map Visit.block = (Tree.breadthFirst root.children).map Tree.block
  all : (Tree.breadthFirst root.children).Perm root.descendants
  attempts : ((rounds.flatMap Round.visits).filter (·.attempt?.isSome)).map Visit.block =
    ((Tree.breadthFirst root.children).map Tree.block).filter isExternal

variable {σ τ : Type} [Clock τ] {c : Clipper σ τ}

/-- A sweep goes in rounds, and over a page that is served in parts, with no failing listing and no error of
the whole document, it covers the page, whatever images fail. -/
theorem run_covers {root : Tree} {cuts : Value → List (Value × List Tree)} (hserved : root.Served cuts)
    (hbound : (root.parts cuts).length ≤ c.maxListings) (s : Session σ τ) :
    ∃ (rounds : List Round) (r : Except Fault Sweep),
      Session.Course c s (rounds.flatMap Round.deeds) (carryOut (run root.id) c s).2 ∧
      (∀ round ∈ rounds, ∀ v ∈ round.visits, v.Sound) ∧ Sweeps c.maxListings ⟨[(root.id, .null)], {}⟩ rounds r ∧
      (carryOut (run root.id) c s).1 = r.map Sweep.result ∧
      (Calm cuts rounds → Covers root cuts rounds (carryOut (run root.id) c s).1) := by
  obtain ⟨_, hc, rounds, hsound, rfl, r, hsweeps, hr⟩ := run_follows root.id s
  refine ⟨rounds, r, hc, hsound, hsweeps, hr, fun hcalm => ?_⟩
  have hqueue : (⟨[(root.id, .null)], {}⟩ : Sweep).queue = [root.pending cuts].map Pending.entry := by
    rw [List.map_singleton, entry_pending hserved List.mem_cons_self]
  have hdue : ∀ p ∈ [root.pending cuts], Pending.Due root cuts p :=
    List.forall_mem_singleton.2 (due_pending hserved List.mem_cons_self)
  rw [← remaining_root hserved] at hbound
  obtain ⟨⟨s', rfl, hgoes⟩, hlistings, hvisits⟩ :=
    hsweeps.covers hserved rfl hqueue hdue hbound hcalm
  rw [remaining_root hserved] at hlistings
  have hblocks : [root.pending cuts].flatMap Pending.blocks = root.children :=
    (List.append_nil _).trans (hserved.whole root List.mem_cons_self)
  rw [hblocks] at hvisits
  have hall : (Tree.breadthFirst root.children).Perm root.descendants := by
    rw [Tree.descendants_eq]
    exact Tree.breadthFirst_perm _
  have hgains := hsweeps.gains hsound rfl
  refine ⟨⟨s'.result, hr, ?_, hgoes⟩, hlistings, ?_, hvisits, hall, ?_⟩
  · have hlength := congrArg List.length hvisits
    rw [List.length_map, List.length_map, hall.length_eq] at hlength
    rw [hgains.visited, hlength]
    exact Nat.zero_add _
  · rw [hlistings]
    exact nodup_listings hserved
  · have hattempts : ∀ v ∈ rounds.flatMap Round.visits, v.attempt?.isSome = isExternal v.block := by
      intro v hv
      obtain ⟨round, hround, hmem⟩ := List.mem_flatMap.1 hv
      rw [Bool.eq_iff_iff, isExternal_iff]
      exact Visit.attempted_iff (hsound round hround v hmem) (hgains.attempted v hv)
    rw [← hvisits, List.filter_map]
    exact congrArg _ (List.filter_congr hattempts)

/-! ## A service that does not change -/

theorem Seen.passing {s s' : Sweep} {v : Visit} (h : Seen s v (.ok s')) (hs' : s'.result.stoppedEarly = false) :
    v.Passing := by
  intro f hf
  cases h with
  | passed _ _ hnone => simp [Visit.outcome?, hnone] at hf
  | moved _ ho =>
    rw [ho] at hf
    cases hf
  | failed _ ho hstops =>
    rw [ho] at hf
    cases hf
    exact ⟨_, rfl, hstops⟩
  | stopped => cases hs'

theorem SeenAll.passing {s s' : Sweep} {blocks : List Value} {vs : List Visit} (h : SeenAll s blocks vs (.ok s'))
    (hs' : s'.result.stoppedEarly = false) : ∀ v ∈ vs, v.Passing := by
  generalize hr : (.ok s' : Except Fault Sweep) = r at h
  induction h with
  | nil => simp
  | cons hseen hs₁ _ ih => exact List.forall_mem_cons.2 ⟨hseen.passing hs₁, ih hr⟩
  | stopped _ hstop =>
    cases hr
    rw [hstop] at hs'
    cases hs'
  | broken => cases hr

theorem Listed.passing {s s' : Sweep} {round : Round} (h : Listed s round (.ok s'))
    (hs' : s'.result.stoppedEarly = false) :
    ∀ v ∈ round.visits, v.Passing := by
  generalize hr : (.ok s' : Except Fault Sweep) = r at h
  cases h with
  | read _ _ hseen hgoes => exact hseen.passing hgoes
  | stopped _ _ hseen =>
    cases hr
    exact hseen.passing hs'
  | failed _ _ hnone => simp [hnone]
  | refused =>
    cases hr
    cases hs'
  | _ => cases hr

/-- In a sweep that returns and has not stopped early, whatever has failed was passed over. -/
theorem Sweeps.passing {n : Nat} {s s' : Sweep} {rounds : List Round} (h : Sweeps n s rounds (.ok s'))
    (hs' : s'.result.stoppedEarly = false) : ∀ round ∈ rounds, ∀ v ∈ round.visits, v.Passing := by
  generalize hr : (.ok s' : Except Fault Sweep) = r at h
  induction h with
  | done => simp
  | spent => cases hr
  | @round n s s₁ rest rounds r round _ _ hlisted hsweeps ih =>
    refine List.forall_mem_cons.2 ⟨hlisted.passing ?_, ih hr⟩
    -- had it stopped in this round, there would be none after it
    cases hs₁ : s₁.result.stoppedEarly with
    | false => rfl
    | true =>
      obtain ⟨-, rfl⟩ := hsweeps.of_stopped hs₁
      cases hr
      rw [← hs', hs₁]
  | broken => cases hr

/-- Where the service always serves the page, a sweep that returns without having stopped early has met with no
failing listing. -/
theorem calm_of_serves {cuts : Value → List (Value × List Tree)}
    (hserves : ∀ parent, ∀ p ∈ Tree.partsFrom parent (cuts parent), ∀ w, ∃ reply,
      (c.outside.ask (.children parent (.int maxBatch) p.cursor) w).1 = .answer reply ∧ p.Reads reply)
    {n : Nat} {s s' : Sweep} {t t' : Session σ τ} {rounds : List Round}
    (hc : Session.Course c t (rounds.flatMap Round.deeds) t') (hsound : ∀ round ∈ rounds, ∀ v ∈ round.visits, v.Sound)
    (h : Sweeps n s rounds (.ok s')) (hs : s.result.stoppedEarly = false) (hs' : s'.result.stoppedEarly = false) :
    Calm cuts rounds := by
  refine ⟨fun round hround p hp hcursor => ?_, h.passing hs'⟩
  obtain ⟨parent, cursor, answer, visits⟩ := round
  obtain rfl : p.cursor = cursor := hcursor
  have hmem : .listed parent p.cursor answer ∈ rounds.flatMap Round.deeds :=
    List.mem_flatMap.2 ⟨_, hround, List.mem_cons_self⟩
  rcases hc.of_listed hmem with ⟨e, he, hkind⟩ | ⟨w, hw⟩
  · -- a refusal by the budget would have stopped the sweep
    have hstops := (h.gains hsound hs).tally.stopped
    rw [hs', List.any_eq_false] at hstops
    refine absurd ?_ (hstops _ hmem)
    simp [Deed.stops, stops, he, Fault.stopsAll, hkind, ErrorKind.stopsAll]
  · obtain ⟨reply, hanswer, hreads⟩ := hserves parent p hp w
    rw [hanswer] at hw
    exact ⟨reply, hw, hreads⟩

section Page

/-- A block that is an image at a URL of its own. -/
def picture (id url : String) : Tree :=
  .node (.text id) (.record [("id", .text id), ("type", .text "image"),
    ("image", .record [("type", .text "external"), ("external", .record [("url", .text url)])])]) []

/-- A toggle with an image under it. -/
def toggle : Tree :=
  .node (.text "t") (.record [("id", .text "t"), ("type", .text "toggle"), ("has_children", .bool true)])
    [picture "x" "data:image/gif,a"]

/-- A page of that toggle and one more image. -/
def page : Tree := .node (.text "p") .null [toggle, picture "y" "ftp://h/b"]

/-- The page is served block by block. -/
def pageCuts : Value → List (Value × List Tree)
  | .text "p" => [(.null, [toggle]), (.text "next", [picture "y" "ftp://h/b"])]
  | .text "t" => [(.null, [picture "x" "data:image/gif,a"])]
  | _ => []

/-- A service that serves it and takes every file. -/
def pageService : Outside Unit Int :=
  { Image.hospitable with
    ask := fun r _ => match r with
      | .children (.text "p") _ .null => (.answer (.record [("results", .list [toggle.block]), ("has_more", .bool true),
          ("next_cursor", .text "next")]), ())
      | .children (.text "p") _ _ => (.answer (.record [("results", .list [(picture "y" "ftp://h/b").block])]), ())
      | .children .. => (.answer (.record [("results", .list [(picture "x" "data:image/gif,a").block])]), ())
      | _ => (.answer .null, ()) }

/-- A clipper that makes no more listings than the page has parts. -/
def pageClipper : Clipper Unit Int := { Image.hospitableClipper with outside := pageService, maxListings := 3 }

theorem picture_readable (id url : String) : (picture id url).Readable where
  id := rfl
  children := ⟨.null, rfl, rfl⟩
  image := ⟨true, rfl⟩

theorem page_parents : page.parents = [page, toggle] := by
  have hbreadth : Tree.breadthFirst page.children =
      [toggle, picture "y" "ftp://h/b", picture "x" "data:image/gif,a"] := by
    rw [Tree.breadthFirst_eq, Tree.breadthFirst_eq (page.children.flatMap Tree.children)]
    rw [show (page.children.flatMap Tree.children).flatMap Tree.children = [] from rfl, Tree.breadthFirst_nil]
    rfl
  rw [Tree.parents, hbreadth]
  rfl

theorem page_served : page.Served pageCuts where
  distinct := by
    rw [show (page :: page.descendants).map Tree.id = [.text "p", .text "t", .text "x", .text "y"] from rfl]
    simp
  readable := by
    intro t ht
    rw [show page.descendants = [toggle, picture "x" "data:image/gif,a", picture "y" "ftp://h/b"] from rfl] at ht
    simp only [List.mem_cons, List.not_mem_nil, or_false] at ht
    rcases ht with rfl | rfl | rfl
    · exact ⟨rfl, ⟨_, rfl, rfl⟩, ⟨_, rfl⟩⟩
    · exact picture_readable _ _
    · exact picture_readable _ _
  whole := by
    rw [page_parents]
    simp only [List.forall_mem_cons, List.not_mem_nil, false_implies, implies_true, and_true]
    exact ⟨rfl, rfl⟩
  first := by
    rw [page_parents]
    simp only [List.forall_mem_cons, List.not_mem_nil, false_implies, implies_true, and_true]
    exact ⟨rfl, rfl⟩
  fresh := by
    rw [page_parents]
    simp only [List.forall_mem_cons, List.not_mem_nil, false_implies, implies_true, and_true]
    refine ⟨?_, ?_⟩
    · rw [show (pageCuts page.id).map (·.1) = [.null, .text "next"] from rfl]
      simp
    · exact List.nodup_singleton _

theorem page_parts : (page.parts pageCuts).length ≤ pageClipper.maxListings := by
  rw [Tree.parts, page_parents]
  exact Nat.le_refl 3

theorem page_serves (parent : Value) : ∀ p ∈ Tree.partsFrom parent (pageCuts parent), ∀ w, ∃ reply,
    (pageClipper.outside.ask (.children parent (.int maxBatch) p.cursor) w).1 = .answer reply ∧ p.Reads reply := by
  intro p hp w
  unfold pageCuts at hp
  split at hp
  · rcases List.mem_cons.1 hp with rfl | hp
    · exact ⟨_, rfl, rfl, ⟨_, rfl, rfl⟩, rfl⟩
    · obtain rfl := List.mem_singleton.1 hp
      exact ⟨_, rfl, rfl, _, rfl, rfl⟩
  · obtain rfl := List.mem_singleton.1 hp
    exact ⟨_, rfl, rfl, _, rfl, rfl⟩
  · cases hp

theorem page_result : (carryOut (run page.id) pageClipper Image.hospitableSession).1 = .ok ⟨2, 1, 1, 3, false⟩ := by
  have hdone : (match (carryOut (run page.id) pageClipper Image.hospitableSession).1 with
      | .ok result => decide (result = ⟨2, 1, 1, 3, false⟩)
      | .error _ => false) = true := by decide +kernel
  split at hdone
  next result heq => rw [heq, of_decide_eq_true hdone]
  next => cases hdone

/-- One image is moved, the other has no URL to download from, and the page is covered. -/
theorem page_covered :
    page.Served pageCuts ∧ (page.parts pageCuts).length ≤ pageClipper.maxListings ∧
      ∃ rounds : List Round, Session.Course pageClipper Image.hospitableSession (rounds.flatMap Round.deeds)
          (carryOut (run page.id) pageClipper Image.hospitableSession).2 ∧
        Calm pageCuts rounds ∧
        Covers page pageCuts rounds (carryOut (run page.id) pageClipper Image.hospitableSession).1 ∧
        (carryOut (run page.id) pageClipper Image.hospitableSession).1 = .ok ⟨2, 1, 1, 3, false⟩ := by
  obtain ⟨rounds, r, hc, hsound, hsweeps, hr, hcovers⟩ := run_covers page_served page_parts Image.hospitableSession
  have hcalm : Calm pageCuts rounds := by
    rw [page_result] at hr
    cases r with
    | error => cases hr
    | ok s' =>
      refine calm_of_serves page_serves hc hsound hsweeps rfl ?_
      rw [← Except.ok.inj hr]
  exact ⟨page_served, page_parts, rounds, hc, hcalm, hcovers hcalm, page_result⟩

end Page

end Sweep

end WebClip
