import Mathlib.Data.List.Chain
import WebClip.Proofs.Absorbing
import WebClip.Proofs.Sweeping
/-!
# The lives of images

An image is discovered, downloaded, moved into an upload and resolved, and the download or the
upload may fail. What one call notes of an image is such a life as far as it has gone: no state is
left out and none comes twice, whichever way the call ends.
-/

namespace WebClip

open Act

/-! ## The course of a life -/

namespace ImageState

/-- The states that may come next, for an image to be moved into an upload or to be left alone. -/
def next (moved : Bool) : ImageState → List ImageState
  | discovered => if moved then [downloading] else [resolved]
  | downloading => [downloaded, downloadFailed]
  | downloaded => [uploading]
  | uploading => [uploaded, uploadFailed]
  | downloadFailed | uploaded | uploadFailed => [resolved]
  | resolved => []

/-- How far a state is from the discovery. -/
def stage : ImageState → Nat
  | discovered => 0
  | downloading => 1
  | downloaded | downloadFailed => 2
  | uploading => 3
  | uploaded | uploadFailed => 4
  | resolved => 5

theorem stage_lt_of_mem_next {moved : Bool} {a b : ImageState} (h : b ∈ a.next moved) : a.stage < b.stage := by
  cases moved <;> cases a <;> cases b <;> simp_all [next, stage]

/-- A life as far as it has gone: it begins with the discovery, and each state comes next after the one before. -/
structure IsLife (moved : Bool) (states : List ImageState) : Prop where
  starts : states.head? = some .discovered
  follows : states.IsChain fun a b => b ∈ a.next moved

instance (moved : Bool) (states : List ImageState) : Decidable (IsLife moved states) :=
  decidable_of_iff (states.head? = some .discovered ∧ states.IsChain fun a b => b ∈ a.next moved)
    ⟨fun h => ⟨h.1, h.2⟩, fun h => ⟨h.starts, h.follows⟩⟩

/-- No state comes twice in a life. -/
theorem IsLife.nodup {moved : Bool} {states : List ImageState} (h : IsLife moved states) : states.Nodup := by
  have hstages : (states.map stage).IsChain (· < ·) :=
    List.isChain_map_of_isChain stage (fun _ _ => stage_lt_of_mem_next) h.follows
  have hlt : (states.map stage).Pairwise (· < ·) := List.isChain_iff_pairwise.1 hstages
  exact hlt.of_map stage fun a b hne heq => Nat.lt_irrefl _ (heq ▸ hne)

end ImageState

/-! ## What deeds note of one image -/

namespace Deed

/-- The states that deeds note of the image at a URL, in order. -/
def states (url : String) (ds : List Deed) : List ImageState :=
  (ds.filterMap note?).filterMap fun p => if p.1 = url then some p.2 else none

variable {url : String}

theorem states_append (ds es : List Deed) : states url (ds ++ es) = states url ds ++ states url es := by
  simp [states]

theorem states_eq_nil {ds : List Deed} (h : ∀ d ∈ ds, ∀ p, d.note? = some p → p.1 ≠ url) : states url ds = [] := by
  apply List.filterMap_eq_nil_iff.2
  intro p hp
  obtain ⟨d, hd, hnote⟩ := List.mem_filterMap.1 hp
  exact if_neg (h d hd p hnote)

/-- The deeds of something keyed by URLs, each of which notes only states of its own image. -/
theorem states_flatMap {α : Type} {key : α → String} {deeds : α → List Deed} {xs : List α}
    (hown : ∀ x ∈ xs, ∀ d ∈ deeds x, ∀ p, d.note? = some p → p.1 = key x) (hkeys : (xs.map key).Nodup) :
    (∀ x ∈ xs, states (key x) (xs.flatMap deeds) = states (key x) (deeds x)) ∧
      ∀ url, url ∉ xs.map key → states url (xs.flatMap deeds) = [] := by
  have hother : ∀ ys : List α, ys ⊆ xs → ∀ url, url ∉ ys.map key → states url (ys.flatMap deeds) = [] := by
    intro ys hys url hurl
    apply states_eq_nil
    intro d hd p hnote heq
    obtain ⟨y, hy, hd⟩ := List.mem_flatMap.1 hd
    exact hurl (heq ▸ hown y (hys hy) d hd p hnote ▸ List.mem_map_of_mem hy)
  refine ⟨fun x hx => ?_, hother xs (List.Subset.refl _)⟩
  -- the one whose URL this is stands between two parts that note nothing of it
  obtain ⟨before, after, rfl⟩ := List.append_of_mem hx
  rw [List.map_append, List.map_cons, List.nodup_append] at hkeys
  obtain ⟨-, hafter, hbefore⟩ := hkeys
  have hnil₁ : states (key x) (before.flatMap deeds) = [] := by
    apply hother before (List.subset_append_left _ _)
    intro hmem
    exact hbefore _ hmem _ List.mem_cons_self rfl
  have hnil₂ : states (key x) (after.flatMap deeds) = [] := by
    apply hother after (List.subset_append_of_subset_right _ (List.subset_cons_self _ _))
    exact (List.nodup_cons.1 hafter).1
  rw [List.flatMap_append, List.flatMap_cons, states_append, states_append, hnil₁, hnil₂, List.nil_append,
    List.append_nil]

end Deed

/-! ## The lives of images in a session -/

section Sessions
variable {σ τ : Type}

/-- The states noted of the image at a URL, oldest first. -/
def Session.life (s : Session σ τ) (url : String) : List ImageState :=
  s.transitions.reverse.filterMap fun p => if p.1 = url then some p.2 else none

variable [Clock τ] {c : Clipper σ τ} {s t : Session σ τ}

/-- A course continues the life of each image by what it notes of it. -/
theorem Session.Course.life {ds : List Deed} (h : Session.Course c s ds t) (url : String) :
    t.life url = s.life url ++ Deed.states url ds := by
  simp [Session.life, h.transitions, Deed.states]

omit [Clock τ] in
/-- What a call notes of the images at some URLs, and of no others: for each a life whose last state is as said. -/
structure Live (moved : Bool) (urls : List String) (last : String → ImageState → Prop) (s t : Session σ τ) : Prop where
  lives : ∀ url ∈ urls, ∃ states, t.life url = s.life url ++ states ∧ ImageState.IsLife moved states ∧ states.Nodup ∧
    ∃ state, states.getLast? = some state ∧ last url state
  others : ∀ url, url ∉ urls → t.life url = s.life url

/-- A course that notes lives of some images, and nothing of others. -/
theorem live_of_course {ds : List Deed} (h : Session.Course c s ds t) {moved : Bool} {urls : List String}
    {last : String → ImageState → Prop}
    (hlives : ∀ url ∈ urls, ImageState.IsLife moved (Deed.states url ds) ∧
      ∃ state, (Deed.states url ds).getLast? = some state ∧ last url state)
    (hothers : ∀ url, url ∉ urls → Deed.states url ds = []) : Live moved urls last s t := by
  constructor
  · intro url hurl
    obtain ⟨hlife, hlast⟩ := hlives url hurl
    exact ⟨Deed.states url ds, h.life url, hlife, hlife.nodup, hlast⟩
  · intro url hurl
    rw [h.life url, hothers url hurl, List.append_nil]

end Sessions

namespace Image

/-! ## Lives while images are downloaded -/

/-- Each download of some batches is started and ended once, whatever the order in which they end. -/
theorem Batched.states {outcomes : List (String × Outcome)} {ds : List Deed} (h : Batched outcomes ds)
    (hkeys : (outcomes.map (·.1)).Nodup) :
    (∀ p ∈ outcomes, Deed.states p.1 ds = .downloading :: (endState? p.2).toList) ∧
      ∀ url, url ∉ outcomes.map (·.1) → Deed.states url ds = [] := by
  induction h with
  | nil => exact ⟨by simp, fun _ _ => rfl⟩
  | @cons outcomes finished rest ds hperm hrest ih =>
    rw [List.map_append, List.nodup_append] at hkeys
    obtain ⟨hkeys, hkeysRest, hapart⟩ := hkeys
    obtain ⟨ihStates, ihOthers⟩ := ih hkeysRest
    have hfinished : (finished.map (·.1)).Nodup := (hperm.map _).nodup_iff.2 hkeys
    have hstarted : ∀ p ∈ outcomes, ∀ d ∈ started p, ∀ q, d.note? = some q → q.1 = p.1 := by
      intro p _ d hd q hnote
      simp only [started, List.mem_cons, List.not_mem_nil, or_false] at hd
      rcases hd with rfl | rfl <;> cases hnote
      rfl
    have hended : ∀ p ∈ finished, ∀ d ∈ (ended? p).toList, ∀ q, d.note? = some q → q.1 = p.1 := by
      intro p _ d hd q hnote
      obtain ⟨state, rfl⟩ := Batched.isNote_of_ended? (Option.mem_toList.1 hd)
      cases hnote
      rfl
    obtain ⟨hstarts, hstartsNot⟩ := Deed.states_flatMap hstarted hkeys
    obtain ⟨hends, hendsNot⟩ := Deed.states_flatMap hended hfinished
    have hnot (url : String) (hurl : url ∉ outcomes.map (·.1)) : url ∉ finished.map (·.1) :=
      fun hmem => hurl ((hperm.map _).mem_iff.1 hmem)
    rw [List.filterMap_eq_flatMap_toList]
    constructor
    · intro p hp
      rw [Deed.states_append, Deed.states_append]
      rcases List.mem_append.1 hp with hp | hp
      · have hout : p.1 ∉ rest.map (·.1) := fun hmem => hapart _ (List.mem_map_of_mem hp) _ hmem rfl
        rw [hstarts p hp, hends p (hperm.mem_iff.2 hp), ihOthers _ hout, ended?_eq]
        cases endState? p.2 <;> simp [Deed.states, started, Deed.note?]
      · have hout : p.1 ∉ outcomes.map (·.1) := fun hmem => hapart _ hmem _ (List.mem_map_of_mem hp) rfl
        rw [hstartsNot _ hout, hendsNot _ (hnot _ hout), ihStates p hp]
        rfl
    · intro url hurl
      rw [List.map_append, List.mem_append, not_or] at hurl
      rw [Deed.states_append, Deed.states_append, hstartsNot _ hurl.1, hendsNot _ (hnot _ hurl.1), ihOthers _ hurl.2]
      rfl

theorem states_noted (state : ImageState) {urls : List String} (hurls : urls.Nodup) :
    (∀ url ∈ urls, Deed.states url (urls.map (.noted · state)) = [state]) ∧
      ∀ url, url ∉ urls → Deed.states url (urls.map (.noted · state)) = [] := by
  have hown : ∀ url ∈ urls, ∀ d ∈ [Deed.noted url state], ∀ p, d.note? = some p → p.1 = id url := by
    intro url _ d hd p hnote
    obtain rfl := List.mem_singleton.1 hd
    cases hnote
    rfl
  have hstates := Deed.states_flatMap hown (by rwa [List.map_id])
  rw [List.map_id, ← List.map_eq_flatMap] at hstates
  refine ⟨fun url hurl => (hstates.1 url hurl).trans ?_, hstates.2⟩
  simp [Deed.states, Deed.note?]

/-! ## Lives while images are moved into uploads -/

/-- The last deeds for an image that has been moved into an upload, or stays where it is. -/
def Fate.settled (f : Fate) : List Deed := f.deeds ++ [.noted f.url .resolved]

theorem Fate.note_settled (f : Fate) : ∀ d ∈ f.settled, ∀ p, d.note? = some p → p.1 = f.url := by
  intro d hd p hnote
  rcases List.mem_append.1 hd with hd | hd
  · exact f.notes_deeds (List.mem_filterMap.2 ⟨d, hd, hnote⟩)
  · obtain rfl := List.mem_singleton.1 hd
    cases hnote
    rfl

/-- The whole life of an image whose fate this is. -/
theorem Fate.isLife (f : Fate) (h : fault? f.download.2 = none) :
    let states := .discovered :: .downloading :: (endState? f.download.2).toList ++ Deed.states f.url f.settled
    ImageState.IsLife true states ∧ states.getLast? = some .resolved := by
  cases f with
  | notDownloaded url e =>
    have hend : endState? (.error (.clip e)) = some .downloadFailed := endState?_of_error h
    simp only [download, hend, settled, deeds, Fate.url, Deed.states, Deed.note?, List.nil_append, List.filterMap_cons,
      List.filterMap_nil, if_pos]
    decide
  | notUploaded image e =>
    simp only [download, endState?, settled, deeds, Fate.url, Deed.states, Deed.note?, List.cons_append,
      List.nil_append, List.filterMap_cons, List.filterMap_nil, if_pos]
    decide
  | uploaded image id =>
    simp only [download, endState?, settled, deeds, Fate.url, Deed.states, Deed.note?, List.cons_append,
      List.nil_append, List.filterMap_cons, List.filterMap_nil, if_pos]
    decide

/-- Where the resolution of images stops, some have been resolved, and the upload of the next one has failed. -/
theorem Settles.stopped_at {outcomes : List (String × Outcome)} {ds : List Deed} {r : Except Fault Assets} {f : Fault}
    (h : Settles outcomes ds r) (hr : r = .error f) : ∃ (fates : List Fate) (image : Download)
      (rest : List (String × Outcome)) (es : List Deed),
      outcomes = fates.map Fate.download ++ (image.url, .ok image) :: rest ∧
        ds = fates.flatMap Fate.settled ++ es ∧ Moved image es (.error f) ∧ ∀ e, f = .clip e → e.kind.stopsAll = true := by
  induction h with
  | nil => cases hr
  | @cons fate outcomes ds r _ ih =>
    cases r with
    | ok => cases hr
    | error =>
      cases hr
      obtain ⟨fates, image, rest, es, rfl, rfl, hmoved, hstops⟩ := ih rfl
      exact ⟨fate :: fates, image, rest, es, rfl, by simp [Fate.settled], hmoved, hstops⟩
  | @stopped image outcomes ds _ hmoved hstops =>
    cases hr
    exact ⟨[], image, outcomes, ds, rfl, rfl, hmoved, hstops⟩

theorem Moved.note {image : Download} {ds : List Deed} {r : Except Fault Value} (h : Moved image ds r) :
    ∀ d ∈ ds, ∀ p, d.note? = some p → p.1 = image.url := by
  intro d hd p hnote
  have hmem : p ∈ ds.filterMap Deed.note? := List.mem_filterMap.2 ⟨d, hd, hnote⟩
  cases h with
  | done id => exact (Fate.uploaded image id).notes_deeds hmem
  | failed e => exact (Fate.notUploaded image e).notes_deeds hmem
  | broken =>
    simp only [Deed.note?, List.filterMap_cons, List.filterMap_nil, List.mem_singleton] at hmem
    rw [hmem]

/-- An upload that ends with an error that stops everything has failed with that error. -/
theorem Moved.of_stopsAll {image : Download} {ds : List Deed} {e : ClipError} (h : Moved image ds (.error (.clip e)))
    (hstops : e.kind.stopsAll = true) : ds = (Fate.notUploaded image e).deeds := by
  generalize hf : Fault.clip e = f at h
  cases h with
  | failed e' =>
    obtain rfl := Fault.clip.inj hf
    rw [uploadError_eq]
    intro u hkind
    rw [hkind] at hstops
    cases hstops
  | broken hf' => exact absurd hf.symm (hf' e)

/-- The lives during a call that discovers and downloads images, settles the fates of the first of them, and then
does something more. -/
theorem states_call {outcomes : List (String × Outcome)} {es : List Deed} {fates : List Fate} (hes : Batched outcomes es)
    (hnodup : (outcomes.map (·.1)).Nodup) (hfates : fates.map Fate.download <+: outcomes) (gs : List Deed) :
    let call := discovered (outcomes.map (·.1)) ++ (es ++ (fates.flatMap Fate.settled ++ gs))
    (∀ f ∈ fates, Deed.states f.url call = .discovered :: .downloading :: (endState? f.download.2).toList ++
        Deed.states f.url f.settled ++ Deed.states f.url gs) ∧
      (∀ p ∈ outcomes, p.1 ∉ fates.map Fate.url →
        Deed.states p.1 call = .discovered :: .downloading :: (endState? p.2).toList ++ Deed.states p.1 gs) ∧
      ∀ url, url ∉ outcomes.map (·.1) → Deed.states url call = Deed.states url gs := by
  obtain ⟨hdisc, hdiscNot⟩ := states_noted .discovered hnodup
  obtain ⟨hdown, hdownNot⟩ := hes.states hnodup
  have hkeys : fates.map Fate.url <+: outcomes.map (·.1) := by
    have hmap := hfates.map (·.1)
    rwa [List.map_map, show (fun p : String × Outcome => p.1) ∘ Fate.download = Fate.url from
      funext Fate.download_fst] at hmap
  obtain ⟨hends, hendsNot⟩ := Deed.states_flatMap (fun f _ => f.note_settled) (hnodup.sublist hkeys.sublist)
  refine ⟨fun f hf => ?_, fun p hp hnot => ?_, fun url hnot => ?_⟩
  · have hmem : f.download ∈ outcomes := hfates.subset (List.mem_map_of_mem hf)
    have hstart := hdown _ hmem
    have hfirst := hdisc f.url (f.download_fst ▸ List.mem_map_of_mem hmem)
    rw [f.download_fst] at hstart
    simp only [Deed.states_append, discovered, hfirst, hstart, hends f hf, List.cons_append, List.nil_append,
      List.append_assoc]
  · simp only [Deed.states_append, discovered, hdisc p.1 (List.mem_map_of_mem hp), hdown p hp, hendsNot p.1 hnot,
      List.cons_append, List.nil_append]
  · have hnot' : url ∉ fates.map Fate.url := fun hmem => hnot (hkeys.subset hmem)
    simp only [Deed.states_append, discovered, hdiscNot url hnot, hdownNot url hnot, hendsNot url hnot',
      List.nil_append]

/-! ## Calls -/

variable {σ τ : Type} {c : Clipper σ τ}

theorem noClip_batchSize (concurrency : Value) : NoClip (batchSize concurrency) := by
  unfold batchSize
  repeat' split
  all_goals first | exact .ok _ | exact .error nofun

variable [Clock τ]

/-- Unless a host fails with an error of the clipper's own, no such error ends the downloads of images. -/
theorem noClip_downloadAll (hhost : c.outside.Detached) (urls : List String) (s : Session σ τ) :
    NoClip (carryOut (downloadAll urls) c s).1 := by
  obtain ⟨ds, hc, hbroken⟩ := downloadAll_broken (c := c) urls s
  intro e he
  rcases hbroken _ he with hsize | ⟨url, -, hd, hf⟩
  · exact noClip_batchSize _ e hsize
  · rw [fault?_of_downloaded hhost hc hd] at hf
    cases hf

/-- The downloads have all been made, and images are moved into uploads until one stops everything. -/
theorem resolveAll_stopped (hfin : c.outside.Finishes) (hhost : c.outside.Detached) (urls : List String)
    (moved : Bool) :
    Follows c (fun ds r => ∀ e, r = .error (.clip e) → moved = true ∧ ∃ outcomes es fs, Batched outcomes es ∧
      outcomes.map (·.1) = distinct urls ∧ (∀ p ∈ outcomes, fault? p.2 = none) ∧ Settles outcomes fs r ∧
      ds = discovered (distinct urls) ++ (es ++ fs)) (resolveAll urls moved) := by
  unfold resolveAll
  dsimp only
  refine .bind (discoverAll_follows _) ?_ ?_
  · rintro _ _ ⟨-, ⟨⟩⟩
  rintro _ _ ⟨rfl, -⟩
  cases moved with
  | false =>
    apply (leaveEach_follows _).mono
    rintro _ _ ⟨-, rfl⟩ e he
    cases he
  | true =>
    have hdown := (downloadAll_follows hfin (nodup_distinct urls)).and_result (noClip_downloadAll hhost _)
    refine .bind hdown ?_ ?_
    · rintro ds f ⟨-, hnoClip⟩ e he
      cases he
      exact absurd rfl (hnoClip e)
    rintro ds found ⟨⟨outcomes, hds, hg⟩, -⟩
    obtain ⟨hurls, hknows, hfault⟩ := hg.all found rfl
    rw [List.nil_append] at hknows
    rw [← hurls]
    refine .bind (resolveEach_follows hknows.known hfault hg.own) ?_ ?_
    · intro es f hes e he
      cases he
      exact ⟨rfl, outcomes, ds, es, hds, rfl, hfault, hes, rfl⟩
    · intro es assets hes
      refine .bind_tell (.pure ?_)
      intro e he
      cases he

/-- The images at all these URLs are resolved when the call returns. -/
theorem live_returned (hfin : c.outside.Finishes) (urls : List String) (moved : Bool) (s : Session σ τ) {assets : Assets}
    (hr : (carryOut (resolveAll urls moved) c s).1 = .ok assets) :
    Live moved (distinct urls) (fun _ state => state = .resolved) s (carryOut (resolveAll urls moved) c s).2 := by
  obtain ⟨ds, hc, hres⟩ := resolveAll_follows hfin urls moved s
  rw [hr] at hres
  have hnodup := nodup_distinct urls
  cases hres with
  | left =>
    obtain ⟨hdisc, hdiscNot⟩ := states_noted .discovered hnodup
    obtain ⟨hleft, hleftNot⟩ := states_noted .resolved hnodup
    apply live_of_course hc
    · intro url hurl
      rw [Deed.states_append, discovered, leftAlone, hdisc url hurl, hleft url hurl]
      exact ⟨by decide, _, rfl, rfl⟩
    · intro url hurl
      rw [Deed.states_append, discovered, leftAlone, hdiscNot url hurl, hleftNot url hurl]
      rfl
  | @moved outcomes ds es found _ hds hg hes =>
    obtain ⟨hurls, -, hfault⟩ := hg.all found rfl
    obtain ⟨fates, rfl, -, rfl⟩ := hes.fates rfl
    have hkeys : (fates.map Fate.download).map (·.1) = fates.map Fate.url := by simp [Function.comp_def]
    rw [← hurls] at hnodup hc ⊢
    obtain ⟨hfates, -, hothers⟩ := states_call hds hnodup List.prefix_rfl []
    rw [← List.append_nil (fates.flatMap _)] at hc
    apply live_of_course hc
    · intro url hurl
      obtain ⟨f, hf, rfl⟩ := List.mem_map.1 (hkeys ▸ hurl)
      obtain ⟨hlife, hlast⟩ := f.isLife (hfault _ (List.mem_map_of_mem hf))
      have hstates := (hfates f hf).trans (List.append_nil _)
      exact hstates ▸ ⟨hlife, _, hlast, rfl⟩
    · exact hothers

/-- Where an upload stops the resolution of images, those before it are resolved, its own image is one whose upload
has failed, and those behind it have only been downloaded, if they could be. -/
theorem live_stopped (hfin : c.outside.Finishes) (hhost : c.outside.Detached) (urls : List String) (moved : Bool)
    (s : Session σ τ) {e : ClipError} (hr : (carryOut (resolveAll urls moved) c s).1 = .error (.clip e)) :
    moved = true ∧ e.kind.stopsAll = true ∧ ∃ before image after ds, distinct urls = before ++ image.url :: after ∧
      Session.Course c s (ds ++ (Fate.notUploaded image e).deeds) (carryOut (resolveAll urls moved) c s).2 ∧
      Live true (distinct urls) (fun url state => (url ∈ before → state = .resolved) ∧
        (url = image.url → state = .uploadFailed) ∧ (url ∈ after → state = .downloaded ∨ state = .downloadFailed))
        s (carryOut (resolveAll urls moved) c s).2 := by
  obtain ⟨ds, hc, hstopped⟩ := resolveAll_stopped hfin hhost urls moved s
  obtain ⟨hmoved, outcomes, es, fs, hes, hurls, hfault, hfs, rfl⟩ := hstopped e hr
  obtain ⟨fates, image, rest, gs, rfl, rfl, hgs, hstops⟩ := hfs.stopped_at hr
  have hnote := hgs.note
  obtain rfl := hgs.of_stopsAll (hstops e rfl)
  have hnodup := nodup_distinct urls
  rw [← hurls] at hnodup hc ⊢
  obtain ⟨hfates, hrest, hothers⟩ :=
    states_call hes hnodup (List.prefix_append _ _) (Fate.notUploaded image e).deeds
  have hkeys : (fates.map Fate.download ++ (image.url, .ok image) :: rest).map (·.1) =
      fates.map Fate.url ++ image.url :: rest.map (·.1) := by simp [Function.comp_def]
  rw [hkeys] at hnodup hc ⊢
  simp only [hkeys] at hfates hrest hothers
  obtain ⟨-, hafter, hapart⟩ := List.nodup_append.1 hnodup
  have hlast : ∀ url, url ≠ image.url → Deed.states url (Fate.notUploaded image e).deeds = [] := by
    intro url hne
    apply Deed.states_eq_nil
    intro d hd p hp heq
    exact hne (heq ▸ hnote d hd p hp)
  have hcut := hc
  rw [← List.append_assoc, ← List.append_assoc] at hcut
  refine ⟨hmoved, hstops e rfl, fates.map Fate.url, image, rest.map (·.1), _, rfl, hcut, live_of_course hc ?_ ?_⟩
  · intro url hurl
    rcases List.mem_append.1 hurl with hbefore | hbehind
    · obtain ⟨f, hf, rfl⟩ := List.mem_map.1 hbefore
      obtain ⟨hlife, hend⟩ := f.isLife (hfault _ (List.mem_append_left _ (List.mem_map_of_mem hf)))
      have hne : f.url ≠ image.url := hapart _ hbefore _ List.mem_cons_self
      have hstates := hfates f hf
      rw [hlast _ hne, List.append_nil] at hstates
      refine hstates ▸ ⟨hlife, _, hend, fun _ => rfl, fun heq => absurd heq hne, fun hmem => ?_⟩
      exact absurd rfl (hapart _ hbefore _ (List.mem_cons_of_mem _ hmem))
    · obtain ⟨p, hp, rfl⟩ := List.mem_map.1 (show url ∈ ((image.url, .ok image) :: rest).map (·.1) from hbehind)
      have hbefore : p.1 ∉ fates.map Fate.url := fun hmem => hapart _ hmem _ hbehind rfl
      have hstates := hrest p (List.mem_append_right _ hp) hbefore
      rw [hstates]
      rcases List.mem_cons.1 hp with rfl | hp
      · simp only [endState?, Fate.deeds, Deed.states, Deed.note?, List.filterMap_cons, List.filterMap_nil, if_pos]
        refine ⟨by decide, _, rfl, fun hmem => absurd hmem hbefore, fun _ => rfl, fun hmem => ?_⟩
        exact absurd hmem (List.nodup_cons.1 hafter).1
      · have hne : p.1 ≠ image.url := fun heq => (List.nodup_cons.1 hafter).1 (heq ▸ List.mem_map_of_mem hp)
        rw [hlast _ hne]
        rcases endState?_of_fault? (hfault p (by simp [hp])) with hend | hend <;> rw [hend]
        · exact ⟨by decide, _, rfl, fun hmem => absurd hmem hbefore, fun heq => absurd heq hne, fun _ => .inl rfl⟩
        · exact ⟨by decide, _, rfl, fun hmem => absurd hmem hbefore, fun heq => absurd heq hne, fun _ => .inr rfl⟩
  · intro url hurl
    rw [hothers url hurl]
    apply hlast
    rintro rfl
    exact hurl (by simp)

theorem states_sought (url : String) (o : Outcome) :
    Deed.states url (sought url o) = .discovered :: .downloading :: (endState? o).toList := by
  rw [sought, ended?_eq]
  cases endState? o <;> simp [started, Deed.states, Deed.note?, List.filterMap_cons]

theorem note_sought (url : String) (o : Outcome) : ∀ d ∈ sought url o, ∀ p, d.note? = some p → p.1 = url := by
  intro d hd p hnote
  rw [sought, ended?_eq] at hd
  cases hend : endState? o <;> simp only [hend, started, Option.map_none, Option.map_some, Option.toList_none,
    Option.toList_some, List.append_nil, List.cons_append, List.nil_append, List.mem_cons, List.not_mem_nil,
    or_false] at hd
  · rcases hd with rfl | rfl | rfl <;> cases hnote <;> rfl
  · rcases hd with rfl | rfl | rfl | rfl <;> cases hnote <;> rfl

/-- The life of an image during a call that moves it into an upload, which ends in none but the clipper's own errors. -/
theorem Rehosted.life {url : String} {ds : List Deed} {r : Except Fault Value} (h : Rehosted url ds r) :
    (∀ d ∈ ds, ∀ p, d.note? = some p → p.1 = url) ∧
      (∀ id, r = .ok id → ImageState.IsLife true (Deed.states url ds) ∧ (Deed.states url ds).getLast? = some .resolved) ∧
      ∀ e, r = .error (.clip e) → (.downloaded url (.error (.clip e)) ∈ ds → fault? (.error (.clip e)) = none) →
        ImageState.IsLife true (Deed.states url ds) ∧ ∃ state, (Deed.states url ds).getLast? = some state ∧
          (state = .downloadFailed ∨ state = .uploadFailed) := by
  cases h with
  | notDownloaded f =>
    refine ⟨note_sought url _, by simp, ?_⟩
    rintro e ⟨⟩ hfault
    have hend : endState? (.error (.clip e)) = some .downloadFailed := by
      apply endState?_of_error
      exact hfault (by simp [sought, started])
    rw [states_sought, hend]
    exact ⟨by decide, _, rfl, .inl rfl⟩
  | @notUploaded image es f hurl hmoved =>
    subst hurl
    refine ⟨?_, by simp, ?_⟩
    · intro d hd p hnote
      rcases List.mem_append.1 hd with hd | hd
      · exact note_sought _ _ d hd p hnote
      · exact hmoved.note d hd p hnote
    · rintro e ⟨⟩ -
      rw [Deed.states_append, states_sought]
      generalize hf : Fault.clip e = f at hmoved
      cases hmoved with
      | failed e' =>
        simp only [endState?, Fate.deeds, Deed.states, Deed.note?, List.filterMap_cons, List.filterMap_nil, if_pos]
        exact ⟨by decide, _, rfl, .inr rfl⟩
      | broken hf' => exact absurd hf.symm (hf' e)
  | @done image id hurl =>
    subst hurl
    refine ⟨?_, fun _ _ => ?_, by simp⟩
    · intro d hd p hnote
      rcases List.mem_append.1 hd with hd | hd
      · exact note_sought _ _ d hd p hnote
      · exact (Fate.uploaded image id).note_settled d hd p hnote
    · rw [Deed.states_append, states_sought]
      exact (Fate.uploaded image id).isLife rfl

/-- An image that could not be moved into an upload has been left by its download or by its upload. -/
theorem live_rehosted (hhost : c.outside.Detached) (url : String) (s : Session σ τ) :
    (∀ id, (carryOut (rehost url) c s).1 = .ok id →
        Live true [url] (fun _ state => state = .resolved) s (carryOut (rehost url) c s).2) ∧
      ∀ e, (carryOut (rehost url) c s).1 = .error (.clip e) →
        Live true [url] (fun _ state => state = .downloadFailed ∨ state = .uploadFailed) s (carryOut (rehost url) c s).2 := by
  obtain ⟨ds, hc, hre⟩ := rehost_follows (c := c) url s
  obtain ⟨hown, hreturns, hfails⟩ := hre.life
  have hothers : ∀ other, other ∉ [url] → Deed.states other ds = [] := by
    intro other hother
    apply Deed.states_eq_nil
    intro d hd p hnote heq
    exact hother (List.mem_singleton.2 (heq ▸ hown d hd p hnote))
  constructor
  · intro id hr
    apply live_of_course hc ?_ hothers
    intro _ hurl
    obtain rfl := List.mem_singleton.1 hurl
    obtain ⟨hlife, hlast⟩ := hreturns id hr
    exact ⟨hlife, _, hlast, rfl⟩
  · intro e hr
    apply live_of_course hc ?_ hothers
    intro _ hurl
    obtain rfl := List.mem_singleton.1 hurl
    exact hfails e hr (fault?_of_downloaded hhost hc)

/-- What calls that begin in a session note of images, if they return or end in an error of the clipper's own. -/
structure CallsLive (c : Clipper σ τ) (s : Session σ τ) : Prop where
  /-- All images are resolved in the end, and none but those to be left alone comes there without a download. -/
  returned : ∀ urls moved assets, (carryOut (resolveAll urls moved) c s).1 = .ok assets →
    Live moved (distinct urls) (fun _ state => state = .resolved) s (carryOut (resolveAll urls moved) c s).2
  /-- The call ends with the upload of one image, whose error concerns the whole document. -/
  stopped : ∀ urls moved e, (carryOut (resolveAll urls moved) c s).1 = .error (.clip e) →
    moved = true ∧ e.kind.stopsAll = true ∧ ∃ before image after ds, distinct urls = before ++ image.url :: after ∧
      Session.Course c s (ds ++ (Fate.notUploaded image e).deeds) (carryOut (resolveAll urls moved) c s).2 ∧
      Live true (distinct urls) (fun url state => (url ∈ before → state = .resolved) ∧
        (url = image.url → state = .uploadFailed) ∧ (url ∈ after → state = .downloaded ∨ state = .downloadFailed))
        s (carryOut (resolveAll urls moved) c s).2
  rehosted : ∀ url id, (carryOut (rehost url) c s).1 = .ok id →
    Live true [url] (fun _ state => state = .resolved) s (carryOut (rehost url) c s).2
  notRehosted : ∀ url e, (carryOut (rehost url) c s).1 = .error (.clip e) →
    Live true [url] (fun _ state => state = .downloadFailed ∨ state = .uploadFailed) s (carryOut (rehost url) c s).2

/-- What a call notes of each image is a life of it as far as it has gone, with no state left out and none twice,
whether the call returns or an error of the clipper's own ends it. -/
theorem calls_live (hfin : c.outside.Finishes) (hhost : c.outside.Detached) (s : Session σ τ) : CallsLive c s where
  returned urls moved _ hr := live_returned hfin urls moved s hr
  stopped urls moved _ hr := live_stopped hfin hhost urls moved s hr
  rehosted url := (live_rehosted hhost url s).1
  notRehosted url := (live_rehosted hhost url s).2

section Rationed

/-- A session that has two requests left, enough for one upload. -/
def rationedSession : Session Unit Int := { outside := (), budget := { perMinute := 2 } }

/-- Three images that come with their URLs, and one whose host cannot be reached. -/
def manyPictures : List String := ["data:image/gif,a", "http://h/b", "data:image/gif,c", "data:image/gif,d"]

/-- The second upload is refused, after the first image has been resolved and before the last one's turn. -/
theorem manyPictures_live :
    hospitable.Finishes ∧ hospitable.Detached ∧
      (match (carryOut (resolveAll manyPictures true) hospitableClipper rationedSession).1 with
        | .error (.clip e) => e.kind.stopsAll
        | _ => false) = true ∧
      (manyPictures.map fun url =>
          ((carryOut (resolveAll manyPictures true) hospitableClipper rationedSession).2.life url).getLast?) =
        [some .resolved, some .resolved, some .uploadFailed, some .downloaded] ∧
      CallsLive hospitableClipper rationedSession :=
  ⟨hospitable_finishes, nofun, by decide +kernel, by decide +kernel, calls_live hospitable_finishes nofun rationedSession⟩

end Rationed

end Image

end WebClip
