import Mathlib.Data.List.Perm.Subperm
import WebClip.Proofs.Servers
/-!
# What a sweep changes

On a service that keeps the blocks of a page a sweep changes only the blocks whose images it has moved, and
each of these to an image that is the upload. Whatever fails, no block is visited twice, and each is
visited as it was before the sweep.
-/

namespace WebClip.Sweep

open Act

/-! ## One visit -/

namespace Visit

/-- A visit has moved the image at the URL of a block into an upload, and the block has become that upload. -/
structure Migrates (v : Visit) (id before after : Value) : Prop where
  block : v.block = before
  external : Reply.isExternalImage before = .ok true
  moved : ∃ url ds upload caption reply, imageUrl before = .ok (.text url) ∧ Image.Rehosted url ds (.ok upload) ∧
    v.attempt? = some (ds ++ [.updated id (uploadPayload upload caption) (.ok reply)], .ok ()) ∧
    Uploaded upload before after

/-- How a block of a page fares in a visit, where `f` tells what ids stand for afterwards. -/
structure Fares (f : Value → Value) (v : Visit) (t : Tree) : Prop where
  block : v.block = t.block
  moved : v.moved = true → v.Migrates t.id t.block (f t.id)
  kept : v.moved = false → f t.id = t.block

theorem Fares.congr {f g : Value → Value} {v : Visit} {t : Tree} (h : v.Fares f t) (hg : g t.id = f t.id) :
    v.Fares g t := ⟨h.block, hg ▸ h.moved, hg ▸ h.kept⟩

/-- Afterwards the block is an image at a URL of its own exactly if an attempt to move it has failed. -/
theorem Fares.isExternal {f : Value → Value} {v : Visit} {t : Tree} (h : v.Fares f t) (hv : v.Sound)
    (hnone : v.attempt? = none → Reply.isExternalImage v.block = .ok false) :
    Sweep.isExternal (f t.id) = v.failed := by
  cases hmoved : v.moved with
  | true =>
    obtain ⟨_, _, upload, _, _, _, _, hattempt, huploaded⟩ := (h.moved hmoved).moved
    have hfailed : v.failed = false := by rw [failed, outcome?, hattempt]; rfl
    rw [hfailed, Sweep.isExternal, huploaded.not_external]
  | false =>
    have hattempted := attempted_iff hv hnone
    rw [← isExternal_iff, ← Bool.eq_iff_iff] at hattempted
    rw [h.kept hmoved, ← h.block, ← hattempted]
    rw [Visit.moved, outcome?] at hmoved
    rw [failed, outcome?]
    cases ha : v.attempt? with
    | none => rfl
    | some a =>
      rw [ha] at hmoved
      have hnot : succeeds a.2 = false := hmoved
      simp [hnot]

end Visit

/-! ## Visits -/

/-- What visits of blocks have made of what ids stand for: each block fares as in its visit, and nothing else
has changed. -/
structure Effect (f g : Value → Value) (vs : List Visit) (ts : List Tree) : Prop where
  fares : List.Forall₂ (fun t v => Visit.Fares g v t) ts vs
  frame : ∀ id, (∀ t ∈ ts, t.id ≠ id) → g id = f id

namespace Effect

variable {f g h : Value → Value} {vs ws : List Visit} {ts us : List Tree}

theorem nil (hg : g = f) : Effect f g [] [] := ⟨.nil, fun _ _ => hg ▸ rfl⟩

theorem append (hvs : Effect f g vs ts) (hws : Effect g h ws us) (hids : ((ts ++ us).map Tree.id).Nodup) :
    Effect f h (vs ++ ws) (ts ++ us) := by
  rw [List.map_append, List.nodup_append] at hids
  obtain ⟨-, -, hdisjoint⟩ := hids
  have hlater : ∀ t ∈ ts, h t.id = g t.id := fun t ht => hws.frame t.id fun u hu =>
    (hdisjoint _ (List.mem_map_of_mem ht) _ (List.mem_map_of_mem hu)).symm
  constructor
  · refine List.rel_append ?_ hws.fares
    exact ((List.forall₂_and_left _ _).2 ⟨hlater, hvs.fares⟩).imp fun t v h => h.2.congr h.1
  · intro id hid
    rw [hws.frame id fun t ht => hid t (List.mem_append_right _ ht),
      hvs.frame id fun t ht => hid t (List.mem_append_left _ ht)]

/-- Every block visited fares as in some visit. -/
theorem exists_visit (he : Effect f g vs ts) {t : Tree} (ht : t ∈ ts) : ∃ v ∈ vs, v.Fares g t := by
  obtain ⟨hfares, -⟩ := he
  induction hfares with
  | nil => cases ht
  | cons hfirst _ ih =>
    rcases List.mem_cons.1 ht with rfl | ht
    · exact ⟨_, List.mem_cons_self, hfirst⟩
    · obtain ⟨v, hv, hfare⟩ := ih ht
      exact ⟨v, List.mem_cons_of_mem _ hv, hfare⟩

/-- Every visit is of some block. -/
theorem exists_block (he : Effect f g vs ts) {v : Visit} (hv : v ∈ vs) : ∃ t ∈ ts, v.Fares g t := by
  obtain ⟨hfares, -⟩ := he
  induction hfares with
  | nil => cases hv
  | cons hfirst _ ih =>
    rcases List.mem_cons.1 hv with rfl | hv
    · exact ⟨_, List.mem_cons_self, hfirst⟩
    · obtain ⟨t, ht, hfare⟩ := ih hv
      exact ⟨t, List.mem_cons_of_mem _ ht, hfare⟩

/-- What can be told of a block by its visit is so as often as the visits tell it. -/
theorem countP_eq (he : Effect f g vs ts) {p : Tree → Bool} {q : Visit → Bool}
    (hpq : ∀ v ∈ vs, ∀ t, v.Fares g t → p t = q v) : ts.countP p = vs.countP q := by
  obtain ⟨hfares, -⟩ := he
  induction hfares with
  | nil => rfl
  | cons hfirst _ ih =>
    obtain ⟨hv, hvs⟩ := List.forall_mem_cons.1 hpq
    rw [List.countP_cons, List.countP_cons, ih hvs, hv _ hfirst]

end Effect

section Kept
variable {σ τ : Type} [Clock τ] {c : Clipper σ τ} {root : Tree} {cuts : Value → List (Value × List Tree)}
  {content : σ → Value → Value} (hkeeps : c.outside.Keeps root cuts content) {w w' : Session σ τ}
include hkeeps

theorem Visit.effect {v : Visit} (hv : v.Sound) {t : Tree} (ht : t ∈ root.descendants) (hread : t.Readable)
    (hblock : v.block = t.block) (hkept : content w.outside t.id = t.block) (hc : Session.Course c w v.deeds w') :
    Effect (content w.outside) (content w'.outside) [v] [t] := by
  have htally := (Visit.tally hv).changes
  cases hmoved : v.moved with
  | false =>
    rw [hmoved] at htally
    have hsame : content w'.outside = content w.outside := by
      refine hc.kept hkeeps fun d hd => ?_
      simpa using List.countP_eq_zero.1 htally d hd
    refine ⟨.cons ⟨hblock, fun h => ?_, fun _ => ?_⟩ .nil, fun id _ => by rw [hsame]⟩
    · rw [hmoved] at h
      cases h
    · rw [hsame, hkept]
  | true =>
    obtain ⟨block, _ | ⟨ds, o⟩⟩ := v
    · cases hmoved
    obtain rfl : block = t.block := hblock
    obtain ⟨himage, hattempt⟩ := hv ds o rfl
    cases hattempt with
    | malformed | kept | lost => cases hmoved
    | @updated url ds upload blockId caption o hurl hrehosted hid hcaption =>
      rw [hread.id] at hid
      obtain rfl := Except.ok.inj hid
      cases o with
      | error => cases hmoved
      | ok reply =>
        obtain ⟨w₁, hbefore, hafter⟩ := hc.split
        obtain ⟨w₂, w₃, hsame, hmakes, hnil⟩ := hafter.head
        have hnone : content w₁.outside = content w.outside := by
          refine hbefore.kept hkeeps fun d hd => ?_
          simpa using List.countP_eq_zero.1 hrehosted.tally.changes d hd
        obtain ⟨hchanged, hothers⟩ := hmakes.update hkeeps ht
        have hlast := hnil.kept hkeeps (by simp)
        rw [← hlast, hsame, hnone] at hchanged hothers
        rw [hkept] at hchanged
        refine ⟨.cons ⟨rfl, fun _ => ?_, fun h => ?_⟩ .nil, fun id hne => ?_⟩
        · refine ⟨rfl, himage, url, ds, upload, caption, reply, hurl, hrehosted, rfl, ?_⟩
          rw [hchanged]
          exact uploaded_withImage hcaption
        · rw [hmoved] at h
          cases h
        · exact hothers id (hne t (List.mem_singleton_self t)).symm

theorem effect_all {vs : List Visit} {ts : List Tree} (hmap : vs.map Visit.block = ts.map Tree.block)
    (hvs : ∀ v ∈ vs, v.Sound) (hts : ∀ t ∈ ts, t ∈ root.descendants) (hread : ∀ t ∈ ts, t.Readable)
    (hids : (ts.map Tree.id).Nodup) (hkept : ∀ t ∈ ts, content w.outside t.id = t.block)
    (hc : Session.Course c w (vs.flatMap Visit.deeds) w') :
    Effect (content w.outside) (content w'.outside) vs ts := by
  induction vs generalizing ts w with
  | nil =>
    obtain rfl := List.map_eq_nil_iff.1 hmap.symm
    exact .nil (hc.kept hkeeps (by simp))
  | cons v vs ih =>
    obtain ⟨t, ts, rfl, hblock, hrest⟩ := List.map_eq_cons_iff.1 hmap.symm
    obtain ⟨w₁, hfirst, hlater⟩ := Session.Course.split (List.flatMap_cons ▸ hc)
    obtain ⟨hv, hvs⟩ := List.forall_mem_cons.1 hvs
    obtain ⟨ht, hts⟩ := List.forall_mem_cons.1 hts
    obtain ⟨hreadt, hread⟩ := List.forall_mem_cons.1 hread
    obtain ⟨hkeptt, hkept⟩ := List.forall_mem_cons.1 hkept
    have hone := Visit.effect hkeeps hv ht hreadt hblock.symm hkeptt hfirst
    have hnew : ∀ u ∈ ts, t.id ≠ u.id := by
      rw [List.map_cons, List.nodup_cons] at hids
      exact fun u hu heq => hids.1 (heq ▸ List.mem_map_of_mem hu)
    refine hone.append (ih hrest.symm hvs hts hread ?_ ?_ hlater) hids
    · rw [List.map_cons, List.nodup_cons] at hids
      exact hids.2
    · intro u hu
      rw [hone.frame u.id fun x hx => List.mem_singleton.1 hx ▸ hnew u hu]
      exact hkept u hu

end Kept

/-! ## Rounds -/

section Kept
variable {σ τ : Type} [Clock τ] {c : Clipper σ τ} {root : Tree} {cuts : Value → List (Value × List Tree)}
  {content : σ → Value → Value} (hserved : root.Served cuts) (hkeeps : c.outside.Keeps root cuts content)
  {w w' : Session σ τ}
include hserved hkeeps

/-- A round that lists a part whose blocks have not changed lists it as the page has it, and visits the first of
its blocks. -/
theorem Listed.effect {s : Sweep} {round : Round} {r : Except Fault Sweep} (h : Listed s round r)
    (hsound : ∀ v ∈ round.visits, v.Sound) {p : Part} (hp : p ∈ root.parts cuts) (hlisting : p.listing = round.listing)
    (hts : ∀ t ∈ p.blocks, t ∈ root.descendants) (hids : (p.blocks.map Tree.id).Nodup)
    (hkept : ∀ t ∈ p.blocks, content w.outside t.id = t.block) (hc : Session.Course c w round.deeds w') :
    (∀ reply, round.answer = .ok reply → p.Reads reply) ∧
      ∃ ts, ts <+: p.blocks ∧ Effect (content w.outside) (content w'.outside) round.visits ts := by
  obtain ⟨parent, cursor, answer, visits⟩ := round
  obtain ⟨rfl, rfl⟩ := Prod.mk.inj hlisting
  obtain ⟨w₁, w₂, hsame, hmakes, hc⟩ := hc.head
  have hreads : ∀ reply, answer = .ok reply → p.Reads reply := by
    rintro reply rfl
    have hnow := hmakes.listed_reads hkeeps hp
    rw [hsame] at hnow
    exact Part.reads_of_now hnow hkept
  have hfirst : content w₂.outside = content w.outside := by
    rw [hmakes.kept hkeeps rfl, hsame]
  rw [← hfirst] at hkept ⊢
  refine ⟨hreads, ?_⟩
  rcases h.visited with hnone | ⟨reply, blocks, hanswer, hblocks, hvisited⟩
  · obtain rfl : visits = [] := hnone
    exact ⟨[], List.nil_prefix, .nil (hc.kept hkeeps (by simp))⟩
  · rw [(hreads reply hanswer).1] at hblocks
    obtain rfl := Except.ok.inj hblocks
    obtain ⟨rest, hrest⟩ := hvisited
    -- the blocks visited are the first of the part
    obtain ⟨ts, later, hall, hmap, -⟩ := List.map_eq_append_iff.1 hrest.symm
    have hsub : ∀ t ∈ ts, t ∈ p.blocks := fun t ht => hall ▸ List.mem_append_left _ ht
    refine ⟨ts, ⟨later, hall.symm⟩, effect_all hkeeps hmap.symm hsound (fun t ht => hts t (hsub t ht))
      (fun t ht => hserved.readable t (hts t (hsub t ht))) ?_ (fun t ht => hkept t (hsub t ht)) hc⟩
    rw [hall, List.map_append] at hids
    exact hids.of_append_left

end Kept

/-! ## The whole sweep -/

/-- A listing that is answered lists the part asked for as the page has it. -/
def Round.Lists (cuts : Value → List (Value × List Tree)) (round : Round) : Prop :=
  ∀ p ∈ Tree.partsFrom round.parent (cuts round.parent), p.cursor = round.cursor →
    ∀ reply, round.answer = .ok reply → p.Reads reply

/-- What is left of a queue has no more blocks under it. -/
theorem breadthFirst_subperm (ts us : List Tree) : (Tree.breadthFirst us).Subperm (Tree.breadthFirst (ts ++ us)) := by
  refine (Tree.breadthFirst_perm us).subperm.trans (.trans ?_ (Tree.breadthFirst_perm _).symm.subperm)
  rw [Tree.preorder_append]
  exact (List.sublist_append_right _ _).subperm

theorem nodup_of_subperm {ts us : List Tree} (h : ts.Subperm us) (hids : (us.map Tree.id).Nodup) :
    (ts.map Tree.id).Nodup := by
  obtain ⟨vs, hperm, hsub⟩ := h
  exact (hperm.map Tree.id).nodup_iff.1 ((hsub.map Tree.id).nodup hids)

section Served
variable {root : Tree} {cuts : Value → List (Value × List Tree)} (hserved : root.Served cuts) {ps : List Pending}
  {s : Sweep} {rest : List (Value × Value)} {round : Round}
include hserved

/-- The listing that a sweep makes next is that of the first part that waits. -/
theorem exists_head (hqueue : s.queue = ps.map Pending.entry) (hdue : ∀ p ∈ ps, Pending.Due root cuts p)
    (hhead : s.queue = (round.parent, round.cursor) :: rest) :
    ∃ ts more qs, ps = (round.parent, (round.cursor, ts) :: more) :: qs ∧ rest = qs.map Pending.entry ∧
      (∃ t ∈ root.parents, round.parent = t.id) ∧ (∀ t ∈ ts, t ∈ root.descendants) ∧
      ⟨round.parent, round.cursor, ts, more.head?.map (·.1)⟩ ∈ Tree.partsFrom round.parent (cuts round.parent) ∧
      ∀ t ∈ ts, t.isInner = true → (cuts t.id).flatMap (·.2) = t.children := by
  rw [hqueue] at hhead
  obtain ⟨⟨parent, all⟩, qs, rfl, hentry, rfl⟩ := List.map_eq_cons_iff.1 hhead
  obtain ⟨u, hu, hid, hne, hsuffix⟩ := hdue _ List.mem_cons_self
  obtain ⟨⟨cursor, ts⟩, more, rfl⟩ := List.exists_cons_of_ne_nil hne
  obtain ⟨rfl, rfl⟩ := Prod.mk.inj hentry
  have hts : ∀ t ∈ ts, t ∈ root.descendants := fun t ht =>
    mem_descendants_of_due hserved (hdue _ List.mem_cons_self) t (List.mem_flatMap.2 ⟨_, List.mem_cons_self, ht⟩)
  refine ⟨ts, more, qs, rfl, rfl, ⟨u, hu, hid⟩, hts, ?_, ?_⟩
  · rw [show round.parent = u.id from hid]
    exact mem_partsFrom_of_suffix hsuffix
  · exact fun t ht hi => hserved.whole t (Tree.mem_parents (hts t ht) hi)

/-- No two parts under a block start at the same cursor. -/
theorem part_unique {t : Tree} (ht : t ∈ root.parents) {p q : Part} (hp : p ∈ Tree.partsFrom t.id (cuts t.id))
    (hq : q ∈ Tree.partsFrom t.id (cuts t.id)) (hcursor : p.cursor = q.cursor) : p = q := by
  have hcursors (cut : List (Value × List Tree)) :
      (Tree.partsFrom t.id cut).map Part.cursor = cut.map (·.1) := by
    induction cut with
    | nil => rfl
    | cons x rest ih => rw [Tree.partsFrom, List.map_cons, List.map_cons, ih]
  refine List.inj_on_of_nodup_map ?_ hp hq hcursor
  rw [hcursors]
  exact hserved.fresh t ht

/-- What a round leaves to list, if it has not stopped the sweep, is what the page has besides its part, or besides
what it would have listed where its listing has failed. -/
theorem Listed.leaves {ts : List Tree} {more : List (Value × List Tree)} {qs : List Pending} {s' : Sweep}
    (hps : ps = (round.parent, (round.cursor, ts) :: more) :: qs) (hs : s.result.stoppedEarly = false)
    (hqueue : s.queue = ps.map Pending.entry) (hdue : ∀ p ∈ ps, Pending.Due root cuts p)
    (hhead : s.queue = (round.parent, round.cursor) :: rest) (h : Listed { s with queue := rest } round (.ok s'))
    (hs' : s'.result.stoppedEarly = false) (hlists : round.Lists cuts)
    (hwhole : ∀ t ∈ ts, t.isInner = true → (cuts t.id).flatMap (·.2) = t.children) :
    ∃ ps' : List Pending, s'.queue = ps'.map Pending.entry ∧ (∀ p ∈ ps', Pending.Due root cuts p) ∧
      ∀ us : List Tree, us <+: ts → us.length = round.visits.length →
        (us ++ Tree.breadthFirst (ps'.flatMap Pending.blocks)).Subperm
          (Tree.breadthFirst (ps.flatMap Pending.blocks)) := by
  cases hanswer : round.answer with
  | ok reply =>
    have hcalm : Calm cuts [round] := by
      refine ⟨?_, by simpa using h.passing hs'⟩
      rw [List.forall_mem_singleton]
      exact fun p hp hcursor => ⟨reply, hanswer, hlists p hp hcursor reply hanswer⟩
    obtain ⟨p, ps', hremaining, -, hbreadth, -, hdue', _, ⟨⟩, -, hqueue'⟩ :=
      h.of_due hserved hs hqueue hdue hcalm hhead
    refine ⟨ps', hqueue', hdue', fun us hus _ => ?_⟩
    rw [hps, remaining_cons hwhole] at hremaining
    obtain ⟨rfl, -⟩ := List.cons.inj hremaining
    rw [hbreadth]
    exact (hus.sublist.append (List.Sublist.refl _)).subperm
  | error f =>
    have hfailed : s'.queue = rest ∧ round.visits = [] := by
      generalize hr : (.ok s' : Except Fault Sweep) = r at h
      cases h with
      | failed _ _ hnone =>
        cases hr
        exact ⟨rfl, hnone⟩
      | refused =>
        cases hr
        cases hs'
      | read ha | stopped ha =>
        rw [hanswer] at ha
        cases ha
      | _ => cases hr
    rw [hqueue, hps, List.map_cons] at hhead
    obtain ⟨-, rfl⟩ := List.cons.inj hhead
    have hdue' : ∀ p ∈ qs, Pending.Due root cuts p := by
      rw [hps] at hdue
      exact (List.forall_mem_cons.1 hdue).2
    refine ⟨qs, hfailed.1, hdue', fun us _ hlength => ?_⟩
    rw [hfailed.2] at hlength
    obtain rfl := List.length_eq_zero_iff.1 hlength
    rw [hps, List.flatMap_cons]
    exact breadthFirst_subperm _ _

end Served

section Kept
variable {σ τ : Type} [Clock τ] {c : Clipper σ τ} {root : Tree} {cuts : Value → List (Value × List Tree)}
  {content : σ → Value → Value} (hserved : root.Served cuts) (hkeeps : c.outside.Keeps root cuts content)
  {w w' : Session σ τ} {ps : List Pending}
include hserved hkeeps

/-- While the blocks still to be visited have not changed, a round lists its part as the page has it and visits the
first blocks of it. -/
theorem Listed.first {s : Sweep} {rest : List (Value × Value)} {round : Round} {r : Except Fault Sweep}
    (h : Listed { s with queue := rest } round r) (hsound : ∀ v ∈ round.visits, v.Sound)
    (hqueue : s.queue = ps.map Pending.entry) (hdue : ∀ p ∈ ps, Pending.Due root cuts p)
    (hhead : s.queue = (round.parent, round.cursor) :: rest)
    (hids : ((Tree.breadthFirst (ps.flatMap Pending.blocks)).map Tree.id).Nodup)
    (hkept : ∀ t ∈ Tree.breadthFirst (ps.flatMap Pending.blocks), content w.outside t.id = t.block)
    (hc : Session.Course c w round.deeds w') :
    round.Lists cuts ∧ ∃ ts more qs, ps = (round.parent, (round.cursor, ts) :: more) :: qs ∧
      (∀ t ∈ ts, t.isInner = true → (cuts t.id).flatMap (·.2) = t.children) ∧
      ts <+: Tree.breadthFirst (ps.flatMap Pending.blocks) ∧
      ∃ us, us <+: ts ∧ Effect (content w.outside) (content w'.outside) round.visits us := by
  obtain ⟨ts, more, qs, rfl, -, ⟨u, hu, hparent⟩, hts, hmem, hwhole⟩ := exists_head hserved hqueue hdue hhead
  have hbreadth : Tree.breadthFirst (((round.parent, (round.cursor, ts) :: more) :: qs).flatMap Pending.blocks) =
      ts ++ Tree.breadthFirst ((after cuts round.parent more qs ts).flatMap Pending.blocks) :=
    breadthFirst_pending hwhole
  have hnext : ts <+: Tree.breadthFirst (((round.parent, (round.cursor, ts) :: more) :: qs).flatMap Pending.blocks) :=
    ⟨_, hbreadth.symm⟩
  have hpart : (⟨round.parent, round.cursor, ts, more.head?.map (·.1)⟩ : Part) ∈ root.parts cuts := by
    rw [hparent] at hmem
    exact List.mem_flatMap.2 ⟨u, hu, hparent ▸ hmem⟩
  have hidsts : (ts.map Tree.id).Nodup := by
    rw [hbreadth, List.map_append] at hids
    exact hids.of_append_left
  obtain ⟨hreads, us, hus, heffect⟩ := h.effect hserved hkeeps hsound hpart rfl hts hidsts
    (fun t ht => hkept t (hnext.subset ht)) hc
  refine ⟨fun p hp hcursor => ?_, ts, more, qs, rfl, hwhole, hnext, us, hus, heffect⟩
  rw [hparent] at hp hmem
  obtain rfl := part_unique hserved hu hp hmem hcursor
  exact hparent ▸ hreads

/-- Whatever fails, a sweep visits no block twice, each as it was before, and changes only the blocks whose images
it has moved. -/
theorem Sweeps.effect {n : Nat} {s : Sweep} {rounds : List Round} {r : Except Fault Sweep} (h : Sweeps n s rounds r)
    (hsound : ∀ round ∈ rounds, ∀ v ∈ round.visits, v.Sound) (hs : s.result.stoppedEarly = false)
    (hqueue : s.queue = ps.map Pending.entry) (hdue : ∀ p ∈ ps, Pending.Due root cuts p)
    (hids : ((Tree.breadthFirst (ps.flatMap Pending.blocks)).map Tree.id).Nodup)
    (hkept : ∀ t ∈ Tree.breadthFirst (ps.flatMap Pending.blocks), content w.outside t.id = t.block)
    (hc : Session.Course c w (rounds.flatMap Round.deeds) w') :
    (∀ round ∈ rounds, round.Lists cuts) ∧ ∃ ts, ts.Subperm (Tree.breadthFirst (ps.flatMap Pending.blocks)) ∧
      Effect (content w.outside) (content w'.outside) (rounds.flatMap Round.visits) ts := by
  induction h generalizing ps w with
  | done | spent => exact ⟨by simp, [], (List.nil_sublist _).subperm, .nil (hc.kept hkeeps (by simp))⟩
  | @round n s s₁ rest rounds r round _ hhead hlisted hsweeps ih =>
    obtain ⟨hround, hsound⟩ := List.forall_mem_cons.1 hsound
    obtain ⟨w₁, hfirst, hlater⟩ := Session.Course.split (List.flatMap_cons ▸ hc)
    obtain ⟨hlists, ts, more, qs, hps, hwhole, hnext, us, hus, heffect⟩ :=
      hlisted.first hserved hkeeps hround hqueue hdue hhead hids hkept hfirst
    cases hs₁ : s₁.result.stoppedEarly with
    | true =>
      obtain ⟨rfl, -⟩ := hsweeps.of_stopped hs₁
      have hsame : content w'.outside = content w₁.outside := hlater.kept hkeeps (by simp)
      rw [hsame]
      exact ⟨by simpa using hlists, us, (hus.trans hnext).sublist.subperm, by simpa using heffect⟩
    | false =>
      obtain ⟨ps', hqueue', hdue', hleft⟩ :=
        hlisted.leaves hserved hps hs hqueue hdue hhead hs₁ hlists hwhole
      have hsub := hleft us hus heffect.fares.length_eq
      have hnodup := nodup_of_subperm hsub hids
      have hlaterIds := hnodup
      rw [List.map_append, List.nodup_append] at hlaterIds
      obtain ⟨-, hids', hdisjoint⟩ := hlaterIds
      have hkept' : ∀ t ∈ Tree.breadthFirst (ps'.flatMap Pending.blocks), content w₁.outside t.id = t.block := by
        intro t ht
        rw [heffect.frame t.id fun u hu => hdisjoint _ (List.mem_map_of_mem hu) _ (List.mem_map_of_mem ht)]
        exact hkept t (hsub.subset (List.mem_append_right _ ht))
      obtain ⟨hlists', vs, hvs, heffect'⟩ := ih hsound hs₁ hqueue' hdue' hids' hkept' hlater
      have hboth := ((List.subperm_append_left us).2 hvs).trans hsub
      refine ⟨List.forall_mem_cons.2 ⟨hlists, hlists'⟩, us ++ vs, hboth, ?_⟩
      exact heffect.append heffect' (nodup_of_subperm hboth hids)
  | @broken n s rest f round _ hhead hlisted =>
    obtain ⟨hlists, ts, more, qs, hps, -, hnext, us, hus, heffect⟩ :=
      hlisted.first hserved hkeeps (by simpa using hsound) hqueue hdue hhead hids hkept (by simpa using hc)
    exact ⟨by simpa using hlists, us, (hus.trans hnext).sublist.subperm, by simpa using heffect⟩

/-- A sweep over a page goes in rounds and lists the page as it is. What it visits are blocks of the page, none
twice, and these fare as in their visits. It visits all of them if everything is served and what fails is passed
over. -/
theorem run_effect (hbound : (root.parts cuts).length ≤ c.maxListings) (s : Session σ τ)
    (hstart : ∀ t ∈ root.descendants, content s.outside t.id = t.block) :
    ∃ (rounds : List Round) (r : Except Fault Sweep) (ts : List Tree),
      Session.Course c s (rounds.flatMap Round.deeds) (carryOut (run root.id) c s).2 ∧
      (∀ round ∈ rounds, ∀ v ∈ round.visits, v.Sound) ∧ Sweeps c.maxListings ⟨[(root.id, .null)], {}⟩ rounds r ∧
      (carryOut (run root.id) c s).1 = r.map Sweep.result ∧ (∀ round ∈ rounds, round.Lists cuts) ∧
      ts.Subperm root.descendants ∧
      Effect (content s.outside) (content (carryOut (run root.id) c s).2.outside) (rounds.flatMap Round.visits) ts ∧
      (Calm cuts rounds → ts.Perm root.descendants) := by
  obtain ⟨_, hc, rounds, hsound, rfl, r, hsweeps, hr⟩ := run_follows root.id s
  have hqueue : (⟨[(root.id, .null)], {}⟩ : Sweep).queue = [root.pending cuts].map Pending.entry := by
    rw [List.map_singleton, entry_pending hserved List.mem_cons_self]
  have hdue : ∀ p ∈ [root.pending cuts], Pending.Due root cuts p :=
    List.forall_mem_singleton.2 (due_pending hserved List.mem_cons_self)
  have hblocks : [root.pending cuts].flatMap Pending.blocks = root.children :=
    (List.append_nil _).trans (hserved.whole root List.mem_cons_self)
  have hall : (Tree.breadthFirst ([root.pending cuts].flatMap Pending.blocks)).Perm root.descendants := by
    rw [hblocks, Tree.descendants_eq]
    exact Tree.breadthFirst_perm _
  have hids : ((Tree.breadthFirst ([root.pending cuts].flatMap Pending.blocks)).map Tree.id).Nodup := by
    have hdistinct := hserved.distinct
    rw [List.map_cons, List.nodup_cons] at hdistinct
    exact (hall.map Tree.id).nodup_iff.2 hdistinct.2
  obtain ⟨hlists, ts, hts, heffect⟩ := hsweeps.effect hserved hkeeps hsound rfl hqueue hdue hids
    (fun t ht => hstart t (hall.subset ht)) hc
  have hsub := hts.trans hall.subperm
  refine ⟨rounds, r, ts, hc, hsound, hsweeps, hr, hlists, hsub, heffect, fun hcalm => ?_⟩
  -- as many blocks are visited as there are
  rw [← remaining_root hserved] at hbound
  obtain ⟨-, -, hvisits⟩ := hsweeps.covers hserved rfl hqueue hdue hbound hcalm
  have hlength := congrArg List.length hvisits
  rw [List.length_map, List.length_map, hall.length_eq, ← heffect.fares.length_eq] at hlength
  exact hsub.perm_of_length_le (Nat.le_of_eq hlength.symm)

end Kept

end WebClip.Sweep
