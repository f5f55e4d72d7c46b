import WebClip.Proofs.Effects
/-!
# Sweeping twice

A second sweep finds at URLs of their own the images that the first one has failed to move, and no others.
-/

namespace WebClip.Sweep

open Act

/-- What visits have made of what ids stand for: only a block whose image has been moved has changed, and each such
block has. -/
structure Changes (vs : List Visit) (before after : Value → Value) : Prop where
  only : ∀ id, after id = before id ∨ ∃ v ∈ vs, v.Migrates id (before id) (after id)
  each : ∀ v ∈ vs, v.moved = true → ∃ id, v.Migrates id (before id) (after id)

theorem Effect.changes {f g : Value → Value} {vs : List Visit} {ts : List Tree} (h : Effect f g vs ts)
    (hkept : ∀ t ∈ ts, f t.id = t.block) : Changes vs f g := by
  constructor
  · intro id
    by_cases hid : ∃ t ∈ ts, t.id = id
    · obtain ⟨t, ht, rfl⟩ := hid
      obtain ⟨v, hv, hfares⟩ := h.exists_visit ht
      rw [hkept t ht]
      cases hmoved : v.moved with
      | true => exact .inr ⟨v, hv, hfares.moved hmoved⟩
      | false => exact .inl (hfares.kept hmoved)
    · exact .inl (h.frame id fun t ht heq => hid ⟨t, ht, heq⟩)
  · intro v hv hmoved
    obtain ⟨t, ht, hfares⟩ := h.exists_block hv
    refine ⟨t.id, ?_⟩
    rw [hkept t ht]
    exact hfares.moved hmoved

/-- An image is processed when an attempt is made to move it. -/
theorem countP_attempted (vs : List Visit) :
    vs.countP (·.attempt?.isSome) = vs.countP Visit.moved + vs.countP Visit.failed := by
  induction vs with
  | nil => rfl
  | cons v rest ih =>
    have hone : (if v.attempt?.isSome then 1 else 0) =
        (if v.moved then 1 else 0) + (if v.failed then 1 else 0) := by
      obtain ⟨block, _ | ⟨ds, o⟩⟩ := v
      · rfl
      · cases o <;> rfl
    rw [List.countP_cons, List.countP_cons, List.countP_cons, ih, hone]
    omega

/-- Where a sweep has not stopped early and has counted as failed only images, no listing has failed. -/
theorem Sweeps.succeeds {n : Nat} {s s' : Sweep} {rounds : List Round} (h : Sweeps n s rounds (.ok s'))
    (hsound : ∀ round ∈ rounds, ∀ v ∈ round.visits, v.Sound) (hs : s.result.stoppedEarly = false)
    (hs' : s'.result.stoppedEarly = false)
    (hfailed : s'.result.failed = s.result.failed + (rounds.flatMap Round.visits).countP Visit.failed) :
    ∀ round ∈ rounds, WebClip.succeeds round.answer = true := by
  intro round hround
  have hgains := h.gains hsound hs
  have hover : round.passedOver = false := by
    have hnone : rounds.countP Round.passedOver = 0 := by
      have hcount := hgains.failed
      omega
    simpa using List.countP_eq_zero.1 hnone round hround
  have hgoes : stops round.answer = false := by
    have hstopped := hgains.tally.stopped
    rw [hs', List.any_eq_false] at hstopped
    simpa [Deed.stops] using hstopped (.listed round.parent round.cursor round.answer)
      (List.mem_flatMap.2 ⟨round, hround, List.mem_cons_self⟩)
  simpa [Round.passedOver, hgoes] using hover

theorem exists_of_map_result {r : Except Fault Sweep} {result : SweepResult} (h : r.map Sweep.result = .ok result) :
    ∃ s, r = .ok s ∧ s.result = result := by
  cases r with
  | ok s => exact ⟨s, rfl, Except.ok.inj h⟩
  | error => cases h

/-- How many blocks of a page are images at URLs of their own. -/
def externals (root : Tree) (f : Value → Value) : Nat := root.descendants.countP fun t => isExternal (f t.id)

theorem externals_congr {root : Tree} {f g : Value → Value} (h : ∀ t ∈ root.descendants, f t.id = g t.id) :
    externals root f = externals root g := by
  refine List.countP_congr fun t ht => ?_
  rw [h t ht]

theorem externals_now (root : Tree) (f g : Value → Value) : externals (root.now f) g = externals root g := by
  rw [externals, Tree.descendants_now, List.countP_map, externals]
  refine List.countP_congr fun t _ => ?_
  rw [Function.comp_apply, Tree.id_now]

/-- Blocks that have changed only in that their images were moved can be read as before. -/
theorem Changes.readable {vs : List Visit} {f g k : Value → Value} (h : Changes vs f g) {t : Tree} (ht : t.Readable)
    (hf : f t.id = t.block) (hk : k t.id = g t.id) : (t.now k).Readable := by
  rcases h.only t.id with hsame | ⟨v, -, hmigrates⟩
  · obtain ⟨hid, hchildren, himage⟩ := ht
    rw [← hf, ← hsame, ← hk] at hid hchildren himage
    refine ⟨?_, ?_, ?_⟩
    · rw [Tree.block_now, Tree.id_now]
      exact hid
    · rw [Tree.block_now, Tree.isInner_now]
      exact hchildren
    · rw [Tree.block_now]
      exact himage
  · obtain ⟨_, _, _, _, _, _, _, _, huploaded⟩ := hmigrates.moved
    rw [hf, ← hk] at huploaded
    exact huploaded.readable ht

section Kept
variable {σ τ : Type} [Clock τ] {c : Clipper σ τ} {root : Tree} {cuts : Value → List (Value × List Tree)}
  {content : σ → Value → Value} {s : Session σ τ}

/-- A sweep over a page changes only the blocks whose images it moves. It processes no more images than are at URLs of
their own, and where it has not stopped early and no listing has failed, it processes all of them and leaves
those that have failed. -/
theorem run_changes (hserved : root.Served cuts) (hkeeps : c.outside.Keeps root cuts content)
    (hbound : (root.parts cuts).length ≤ c.maxListings) (s : Session σ τ)
    (hstart : ∀ t ∈ root.descendants, content s.outside t.id = t.block) :
    ∃ rounds : List Round, Session.Course c s (rounds.flatMap Round.deeds) (carryOut (run root.id) c s).2 ∧
      (∀ round ∈ rounds, ∀ v ∈ round.visits, v.Sound) ∧
      Changes (rounds.flatMap Round.visits) (content s.outside) (content (carryOut (run root.id) c s).2.outside) ∧
      ∀ result, (carryOut (run root.id) c s).1 = .ok result →
        result.processed ≤ externals root (content s.outside) ∧
        (result.stoppedEarly = false → (∀ round ∈ rounds, succeeds round.answer = true) →
          result.processed = externals root (content s.outside) ∧
          result.failed = (rounds.flatMap Round.visits).countP Visit.failed ∧
          result.failed = externals root (content (carryOut (run root.id) c s).2.outside)) := by
  obtain ⟨rounds, r, ts, hc, hsound, hsweeps, hr, hlists, hts, heffect, hall⟩ :=
    run_effect hserved hkeeps hbound s hstart
  have hkept : ∀ t ∈ ts, content s.outside t.id = t.block := fun t ht => hstart t (hts.subset ht)
  refine ⟨rounds, hc, hsound, heffect.changes hkept, fun result hresult => ?_⟩
  obtain ⟨s', rfl, rfl⟩ := exists_of_map_result (hr.symm.trans hresult)
  have hgains := hsweeps.gains hsound rfl
  have hvs : ∀ v ∈ rounds.flatMap Round.visits, v.Sound := by
    intro v hv
    obtain ⟨round, hround, hmem⟩ := List.mem_flatMap.1 hv
    exact hsound round hround v hmem
  have hprocessed : s'.result.processed = ts.countP fun t => isExternal (content s.outside t.id) := by
    rw [hgains.processed, Nat.zero_add, ← countP_attempted]
    rw [← heffect.countP_eq (p := fun t => isExternal t.block)]
    · refine List.countP_congr fun t ht => ?_
      rw [hkept t ht]
    · intro v hv t hfares
      rw [Bool.eq_iff_iff, isExternal_iff, ← hfares.block]
      exact (Visit.attempted_iff (hvs v hv) (hgains.attempted v hv)).symm
  constructor
  · rw [hprocessed]
    exact hts.countP_le _
  intro hgoes hanswers
  have hperm : ts.Perm root.descendants := by
    refine hall ⟨fun round hround p hp hcursor => ?_, hsweeps.passing hgoes⟩
    have hanswer := hanswers round hround
    cases ha : round.answer with
    | ok reply => exact ⟨reply, rfl, hlists round hround p hp hcursor reply ha⟩
    | error f =>
      rw [ha] at hanswer
      cases hanswer
  have hfailed : s'.result.failed = (rounds.flatMap Round.visits).countP Visit.failed := by
    have hnone : rounds.countP Round.passedOver = 0 := by
      refine List.countP_eq_zero.2 fun round hround => ?_
      rw [Round.passedOver, hanswers round hround]
      simp
    rw [hgains.failed, hnone]
    exact Nat.zero_add _
  refine ⟨hprocessed.trans (hperm.countP_eq _), hfailed, ?_⟩
  rw [hfailed, externals, ← hperm.countP_eq]
  refine (heffect.countP_eq fun v hv t hfares => ?_).symm
  exact hfares.isExternal (hvs v hv) (hgains.attempted v hv)

/-- A sweep changes a block only if it was an image at a URL of its own, has been moved into an upload and updated, and
then it is the upload of its old URL with its caption. If the sweep has not stopped early and no listing has failed, a
second one over what has become of the page processes no more images than have failed in the first, and exactly as many
if it does not stop early either and none of its listings fails. -/
theorem run_repeats (hserved : root.Served cuts) (hkeeps : c.outside.Keeps root cuts content)
    (hbound : (root.parts cuts).length ≤ c.maxListings) (s : Session σ τ)
    (hstart : ∀ t ∈ root.descendants, content s.outside t.id = t.block) :
    ∃ rounds : List Round, Session.Course c s (rounds.flatMap Round.deeds) (carryOut (run root.id) c s).2 ∧
      (∀ round ∈ rounds, ∀ v ∈ round.visits, v.Sound) ∧
      Changes (rounds.flatMap Round.visits) (content s.outside) (content (carryOut (run root.id) c s).2.outside) ∧
      ∀ result, (carryOut (run root.id) c s).1 = .ok result → result.stoppedEarly = false →
        (∀ round ∈ rounds, succeeds round.answer = true) →
        result.failed = (rounds.flatMap Round.visits).countP Visit.failed ∧
        ∀ (d : Clipper σ τ) (t : Session σ τ), d.outside.Keeps root cuts content →
          (root.parts cuts).length ≤ d.maxListings →
          (∀ u ∈ root.descendants,
            content t.outside u.id = content (carryOut (run root.id) c s).2.outside u.id) →
          ∃ again : List Round, Session.Course d t (again.flatMap Round.deeds) (carryOut (run root.id) d t).2 ∧
            ∀ second, (carryOut (run root.id) d t).1 = .ok second →
              second.processed ≤ result.failed ∧
              (second.stoppedEarly = false → (∀ round ∈ again, succeeds round.answer = true) →
                second.processed = result.failed) := by
  obtain ⟨rounds, hc, hsound, hchanges, hresult⟩ := run_changes hserved hkeeps hbound s hstart
  refine ⟨rounds, hc, hsound, hchanges, fun result hr hgoes hanswers => ?_⟩
  obtain ⟨-, hall⟩ := hresult result hr
  obtain ⟨-, hfailed, hleft⟩ := hall hgoes hanswers
  refine ⟨hfailed, fun d t hkeeps' hbound' hnow => ?_⟩
  -- the second sweep is one over the page as it now is
  have hserved' : (root.now (content t.outside)).Served (Tree.cutsNow (content t.outside) cuts) := by
    refine hserved.now _ fun u hu => ?_
    exact hchanges.readable (hserved.readable u hu) (hstart u hu) (hnow u hu)
  have hstart' : ∀ u ∈ (root.now (content t.outside)).descendants, content t.outside u.id = u.block := by
    rw [Tree.descendants_now]
    refine List.forall_mem_map.2 fun u _ => ?_
    rw [Tree.id_now, Tree.block_now]
  rw [← List.length_map (Part.now (content t.outside)), ← Tree.parts_now] at hbound'
  obtain ⟨again, hc', -, -, hresult'⟩ := run_changes hserved' (hkeeps'.now _) hbound' t hstart'
  rw [Tree.id_now, externals_now, externals_congr hnow, ← hleft] at hresult'
  rw [Tree.id_now] at hc'
  refine ⟨again, hc', fun second hsecond => ?_⟩
  obtain ⟨hmost, hexact⟩ := hresult' second hsecond
  exact ⟨hmost, fun hgoes' hanswers' => (hexact hgoes' hanswers').1⟩

end Kept

section Page

theorem eq_ok_of_decide {r : Except Fault SweepResult} {result : SweepResult}
    (h : (match r with
      | .ok x => decide (x = result)
      | .error _ => false) = true) : r = .ok result := by
  cases r with
  | ok x => rw [of_decide_eq_true h]
  | error => cases h

/-- What ids of the page stand for, given its two images. -/
def pageContent (images : Value × Value) : Value → Value
  | .text "t" => toggle.block
  | .text "x" => images.1
  | .text "y" => images.2
  | _ => .null

/-- A service that serves the page with its images as they are, takes every file and changes the images. -/
def pageServer : Outside (Value × Value) Int where
  now _ := 0
  date _ := ""
  ask r images := match r with
    | .children (.text "p") _ .null => (.answer (.record [("results", .list [toggle.block]), ("has_more", .bool true),
        ("next_cursor", .text "next")]), images)
    | .children (.text "p") _ _ => (.answer (.record [("results", .list [images.2])]), images)
    | .children .. => (.answer (.record [("results", .list [images.1])]), images)
    | .update (.text "x") [("image", image)] => (.answer .null, (withImage image images.1, images.2))
    | .update (.text "y") [("image", image)] => (.answer .null, (images.1, withImage image images.2))
    | _ => (.silence, images)
  upload _ images := (.answer { chunks := ["\x7b\"id\":\"1\",\"status\":\"uploaded\"\x7d".toUTF8] }, images)
  fetch _ images := (.failure (.broken "no route"), images)
  finish urls := List.range urls.length

theorem page_descendants : page.descendants = [toggle, picture "x" "data:image/gif,a", picture "y" "ftp://h/b"] := rfl

theorem pageServer_keeps : pageServer.Keeps page pageCuts pageContent where
  listed := by
    have hparts : page.parts pageCuts = [⟨.text "p", .null, [toggle], some (.text "next")⟩,
        ⟨.text "p", .text "next", [picture "y" "ftp://h/b"], none⟩,
        ⟨.text "t", .null, [picture "x" "data:image/gif,a"], none⟩] := by
      rw [Tree.parts, page_parents]
      rfl
    rw [hparts]
    simp only [List.forall_mem_cons, List.not_mem_nil, false_implies, implies_true, and_true]
    refine ⟨?_, ?_, ?_⟩ <;> rintro images reply ⟨⟩
    · exact ⟨rfl, ⟨_, rfl, rfl⟩, rfl⟩
    · exact ⟨rfl, _, rfl, rfl⟩
    · exact ⟨rfl, _, rfl, rfl⟩
  updated := by
    rw [page_descendants]
    simp only [List.forall_mem_cons, List.not_mem_nil, false_implies, implies_true, and_true]
    refine ⟨?_, ?_, ?_⟩ <;> intro image images reply hreply
    · cases hreply
    · rfl
    · rfl
  others := by
    rw [page_descendants]
    simp only [List.forall_mem_cons, List.not_mem_nil, false_implies, implies_true, and_true]
    refine ⟨fun _ _ _ _ => rfl, ?_, ?_⟩ <;> intro image images id hid
    · change pageContent (withImage image images.1, images.2) id = pageContent images id
      unfold pageContent
      split
      · rfl
      · exact absurd rfl hid
      · rfl
      · rfl
    · change pageContent (images.1, withImage image images.2) id = pageContent images id
      unfold pageContent
      split
      · rfl
      · rfl
      · exact absurd rfl hid
      · rfl
  failed := by
    intro id payload images hnone
    have hcases : (∃ reply, (pageServer.ask (.update id payload) images).1 = .answer reply) ∨
        (pageServer.ask (.update id payload) images).2 = images := by
      simp only [pageServer]
      split
      · cases ‹Request.update _ _ = _›
      · cases ‹Request.update _ _ = _›
      · cases ‹Request.update _ _ = _›
      · exact .inl ⟨_, rfl⟩
      · exact .inl ⟨_, rfl⟩
      · exact .inr rfl
    rcases hcases with ⟨reply, hreply⟩ | hsame
    · exact absurd hreply (hnone reply)
    · rw [hsame]
  asked parent cursor images := by
    simp only [pageServer]
    split <;> first | rfl | contradiction
  uploaded _ _ := rfl
  fetched _ _ := rfl

/-- A clipper that works with this service. -/
def pageSweeper : Clipper (Value × Value) Int :=
  { outside := pageServer, settings := {}, token := "", maxListings := 3 }

/-- Its session, before anything has happened. -/
def pageSession : Session (Value × Value) Int :=
  { outside := ((picture "x" "data:image/gif,a").block, (picture "y" "ftp://h/b").block), budget := { perMinute := 60 } }

/-- The first sweep moves the image that can be moved, and the second one processes the other alone. -/
theorem page_repeats :
    page.Served pageCuts ∧ pageServer.Keeps page pageCuts pageContent ∧
      (page.parts pageCuts).length ≤ pageSweeper.maxListings ∧
      (∀ t ∈ page.descendants, pageContent pageSession.outside t.id = t.block) ∧
      (carryOut (run page.id) pageSweeper pageSession).1 = .ok ⟨2, 1, 1, 3, false⟩ ∧
      (carryOut (run page.id) pageSweeper (carryOut (run page.id) pageSweeper pageSession).2).1 =
        .ok ⟨1, 0, 1, 3, false⟩ ∧
      ∃ rounds : List Round, Session.Course pageSweeper pageSession (rounds.flatMap Round.deeds)
          (carryOut (run page.id) pageSweeper pageSession).2 ∧
        ∃ v ∈ rounds.flatMap Round.visits, v.Migrates (.text "x") (picture "x" "data:image/gif,a").block
          (pageContent (carryOut (run page.id) pageSweeper pageSession).2.outside (.text "x")) := by
  have hstart : ∀ t ∈ page.descendants, pageContent pageSession.outside t.id = t.block := by
    rw [page_descendants]
    simp only [List.forall_mem_cons, List.not_mem_nil, false_implies, implies_true, and_true]
    exact ⟨rfl, rfl, rfl⟩
  have hparts : (page.parts pageCuts).length ≤ pageSweeper.maxListings := page_parts
  have hmoved : isExternal (pageContent (carryOut (run page.id) pageSweeper pageSession).2.outside (.text "x")) =
      false := by decide +kernel
  obtain ⟨rounds, hc, -, hchanges, -⟩ := run_repeats page_served pageServer_keeps hparts pageSession hstart
  refine ⟨page_served, pageServer_keeps, hparts, hstart, eq_ok_of_decide (by decide +kernel),
    eq_ok_of_decide (by decide +kernel), rounds, hc, ?_⟩
  · refine (hchanges.only (.text "x")).resolve_left fun hsame => ?_
    rw [hsame] at hmoved
    cases hmoved

/-- A page of one image, at a URL that it cannot be downloaded from. -/
def shortPage : Tree := .node (.text "p") .null [picture "y" "ftp://h/b"]

/-- It is served in one part. -/
def shortCuts : Value → List (Value × List Tree)
  | .text "p" => [(.null, [picture "y" "ftp://h/b"])]
  | _ => []

/-- A service that makes one listing of it and has too many requests after that. -/
def busyServer : Outside Nat Int where
  now _ := 0
  date _ := ""
  ask r asked := match r, asked with
    | .children .., 0 => (.answer (.record [("results", .list [(picture "y" "ftp://h/b").block])]), 1)
    | _, _ => (.failure (.refused 429 ""), asked + 1)
  upload _ asked := (.silence, asked)
  fetch _ asked := (.silence, asked)
  finish urls := List.range urls.length

/-- Its blocks never change. -/
def busyContent (_ : Nat) : Value → Value
  | .text "y" => (picture "y" "ftp://h/b").block
  | _ => .null

theorem shortPage_parents : shortPage.parents = [shortPage] := by
  have hbreadth : Tree.breadthFirst shortPage.children = [picture "y" "ftp://h/b"] := by
    rw [Tree.breadthFirst_eq, show shortPage.children.flatMap Tree.children = [] from rfl, Tree.breadthFirst_nil]
    rfl
  rw [Tree.parents, hbreadth]
  rfl

theorem shortPage_served : shortPage.Served shortCuts where
  distinct := by
    rw [show (shortPage :: shortPage.descendants).map Tree.id = [.text "p", .text "y"] from rfl]
    simp
  readable := by
    rw [show shortPage.descendants = [picture "y" "ftp://h/b"] from rfl]
    exact List.forall_mem_singleton.2 (picture_readable _ _)
  whole := by
    rw [shortPage_parents]
    exact List.forall_mem_singleton.2 rfl
  first := by
    rw [shortPage_parents]
    exact List.forall_mem_singleton.2 rfl
  fresh := by
    rw [shortPage_parents]
    exact List.forall_mem_singleton.2 (List.nodup_singleton _)

theorem busyServer_keeps : busyServer.Keeps shortPage shortCuts busyContent where
  listed := by
    rw [Tree.parts, shortPage_parents]
    refine List.forall_mem_singleton.2 fun asked reply hreply => ?_
    cases asked with
    | zero =>
      cases hreply
      exact ⟨rfl, _, rfl, rfl⟩
    | succ => cases hreply
  updated _ _ _ _ _ hreply := by cases hreply
  others _ _ _ _ _ _ := rfl
  failed _ _ _ _ := rfl
  asked _ _ _ := rfl
  uploaded _ _ := rfl
  fetched _ _ := rfl

/-- A clipper that works with this service. -/
def busySweeper : Clipper Nat Int := { outside := busyServer, settings := {}, token := "", maxListings := 1 }

/-- Its session, before anything has happened. -/
def busySession : Session Nat Int := { outside := 0, budget := { perMinute := 60 } }

/-- One image has failed in the first sweep, and no listing, but the second one is stopped before it comes to it. -/
theorem busy_stops :
    shortPage.Served shortCuts ∧ busyServer.Keeps shortPage shortCuts busyContent ∧
      (shortPage.parts shortCuts).length ≤ busySweeper.maxListings ∧
      (∀ t ∈ shortPage.descendants, busyContent busySession.outside t.id = t.block) ∧
      (carryOut (run shortPage.id) busySweeper busySession).1 = .ok ⟨1, 0, 1, 1, false⟩ ∧
      (∃ rounds : List Round, Session.Course busySweeper busySession (rounds.flatMap Round.deeds)
          (carryOut (run shortPage.id) busySweeper busySession).2 ∧
        (∀ round ∈ rounds, succeeds round.answer = true) ∧ (rounds.flatMap Round.visits).countP Visit.failed = 1) ∧
      (carryOut (run shortPage.id) busySweeper (carryOut (run shortPage.id) busySweeper busySession).2).1 =
        .ok ⟨0, 0, 0, 0, true⟩ := by
  have hfirst : (carryOut (run shortPage.id) busySweeper busySession).1 = .ok ⟨1, 0, 1, 1, false⟩ :=
    eq_ok_of_decide (by decide +kernel)
  refine ⟨shortPage_served, busyServer_keeps, ?_, ?_, hfirst, ?_, eq_ok_of_decide (by decide +kernel)⟩
  · rw [Tree.parts, shortPage_parents]
    exact Nat.le_refl 1
  · rw [show shortPage.descendants = [picture "y" "ftp://h/b"] from rfl]
    exact List.forall_mem_singleton.2 rfl
  · obtain ⟨_, hc, rounds, hsound, rfl, r, hsweeps, hr⟩ := run_follows (c := busySweeper) shortPage.id busySession
    obtain ⟨s', rfl, hresult⟩ := exists_of_map_result (hr.symm.trans hfirst)
    have hgains := hsweeps.gains hsound rfl
    have hfailed : (rounds.flatMap Round.visits).countP Visit.failed = 1 := by
      have hprocessed := hgains.processed
      have hmigrated := hgains.migrated
      simp only [hresult, Nat.zero_add] at hprocessed hmigrated
      omega
    refine ⟨rounds, hc, hsweeps.succeeds hsound rfl ?_ ?_, hfailed⟩
    · rw [hresult]
    · rw [hresult, hfailed]

end Page

end WebClip.Sweep
