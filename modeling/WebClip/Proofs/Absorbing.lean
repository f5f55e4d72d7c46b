import WebClip.Proofs.Bindings
import WebClip.Proofs.Fates
import WebClip.Proofs.Returns
/-!
# What ends the resolution of images

A download or an upload that fails is absorbed: its image stays at its own URL, and the asset
tells which of the two has failed, and why. What still ends everything is an error that concerns
the whole document, or a fault beside the clipper's own errors.
-/

namespace WebClip

open Act

/-! ## The errors of downloads -/

/-- No host of images fails with an error of the clipper's own. -/
def Outside.Detached {σ τ : Type} (o : Outside σ τ) : Prop := ∀ url w e, (o.fetch url w).1 ≠ .failure (.clip e)

/-- An error of the clipper's own is that a download has failed. -/
def Download.Blames {α : Type} (r : Except Fault α) : Prop := ∀ e, r = .error (.clip e) → ∃ url, e.kind = .download url

theorem NoClip.blames {α : Type} {r : Except Fault α} (h : NoClip r) : Download.Blames r :=
  fun e he => absurd he (h e)

namespace Download

section Blames
variable {α β : Type}

theorem blames_ok (x : α) : Blames (.ok x : Except Fault α) := nofun

theorem blames_failed (url message : String) (status : Option Int) :
    Blames (.error (failed url message status) : Except Fault α) := by
  rintro _ ⟨⟩
  exact ⟨url, rfl⟩

theorem Blames.cast {f : Fault} (h : Blames (.error f : Except Fault α)) : Blames (.error f : Except Fault β) := by
  rintro e ⟨⟩
  exact h e rfl

theorem Blames.bind {r : Except Fault α} {f : α → Except Fault β} (hr : Blames r) (hf : ∀ x, Blames (f x)) :
    Blames (r >>= f) := by
  cases r with
  | error e => exact hr.cast
  | ok x => exact hf x

theorem Blames.ite {p : Prop} [Decidable p] {a b : Except Fault α} (ha : Blames a) (hb : Blames b) :
    Blames (if p then a else b) := by
  split
  · exact ha
  · exact hb

theorem noClip_of_exceeds {size : Nat} {limit : Value} {f : Fault} (h : exceeds size limit = .error f) (e : ClipError) :
    f ≠ .clip e := by
  unfold exceeds at h
  split at h
  all_goals cases h
  exact nofun

theorem blames_gather (url : String) (limit : Value) (content : ByteArray) (parts : List ByteArray) :
    Blames (gather url limit content parts) := by
  induction parts generalizing content with
  | nil => exact blames_ok content
  | cons part rest ih =>
    rw [gather]
    split
    next f hf => exact (NoClip.error (noClip_of_exceeds hf)).blames
    next => exact blames_failed _ _ _
    next => exact ih _

theorem blames_checkLength (url : String) (limit : Value) (r : HttpReply) : Blames (checkLength url limit r) := by
  unfold checkLength
  split
  · exact blames_ok ()
  · split
    · exact blames_failed _ _ _
    · split
      next f hf => exact (NoClip.error (noClip_of_exceeds hf)).blames
      next => exact blames_failed _ _ _
      next => exact blames_ok ()

theorem blames_ofData (limit : Value) (url : String) : Blames (ofData limit url) := by
  unfold ofData
  dsimp only
  repeat' split
  all_goals first
    | exact blames_ok _
    | exact blames_failed _ _ _
    | exact (NoClip.error (noClip_of_exceeds ‹_›)).blames

theorem blames_ofReply (limit : Value) (url : String) (r : HttpReply) : Blames (ofReply limit url r) := by
  unfold ofReply
  dsimp only
  refine .ite (blames_failed _ _ _) (.bind (blames_checkLength url limit r) fun _ => ?_)
  exact .ite (blames_failed _ _ _) (.bind (blames_gather url limit _ _) fun content => blames_ok _)

variable {σ τ : Type} [Clock τ] {c : Clipper σ τ}

/-- A response that fails with no error of the clipper's own. -/
def Apart (a : Response HttpReply) : Prop := ∀ e, a ≠ .failure (.clip e)

theorem fetch_apart (hhost : c.outside.Detached) (url : String) :
    Does c (fun _ => True) (fun r => ∃ a, r = .ok a ∧ Apart a) (fetch url) := by
  refine (fetch_ensures url).mono ?_
  rintro _ _ ⟨w, -, rfl⟩
  exact ⟨fun _ _ => trivial, _, rfl, hhost url w⟩

theorem fetchFrom_apart (hhost : c.outside.Detached) (n : Nat) (url : String) :
    Does c (fun _ => True) (fun r => ∃ a, r = .ok a ∧ Apart a) (fetchFrom n url) := by
  have hbroken (text : String) : Apart (.failure (.broken text)) := nofun
  induction n generalizing url with
  | zero =>
    rw [fetchFrom]
    refine .bind_sure (fetch_apart hhost url) fun a ha => ?_
    split
    · split
      · exact .pure ⟨_, rfl, ha⟩
      · exact .pure ⟨_, rfl, hbroken _⟩
    · exact .pure ⟨_, rfl, ha⟩
  | succ n ih =>
    rw [fetchFrom]
    refine .bind_sure (fetch_apart hhost url) fun a ha => ?_
    split
    · split
      · exact .pure ⟨_, rfl, ha⟩
      · dsimp only
        split
        · exact ih _
        · exact .pure ⟨_, rfl, hbroken _⟩
    · exact .pure ⟨_, rfl, ha⟩

/-- An error of the clipper's own that ends a download is that it has failed. -/
theorem run_blames (hhost : c.outside.Detached) (url : String) : Does c (fun _ => True) Blames (run url) := by
  unfold run
  refine .bind_done .read ?_
  split
  · exact .orFault (blames_ofData _ _)
  · split
    · exact .throw (blames_failed _ _ _)
    · refine .bind_sure (fetchFrom_apart hhost _ url) fun a ha => ?_
      cases a with
      | answer r => exact .orFault (blames_ofReply _ _ r)
      | failure f =>
        cases f with
        | clip e => exact absurd rfl (ha e)
        | crash text => exact .throw (NoClip.blames (.error nofun))
        | _ => exact .throw (blames_failed _ _ _)
      | silence => exact .throw (NoClip.blames (.error nofun))

end Blames

end Download

/-- Hosts of images answer, or fail as hosts do: neither with an error of the clipper's own nor in a way nobody
foresaw. -/
structure Outside.Ordinary {σ τ : Type} (o : Outside σ τ) : Prop where
  foreseen : ∀ url w, Download.Foreseen (o.fetch url w).1
  detached : o.Detached

/-- Each deed of a course has been done in some session. -/
theorem Session.Course.exists_makes {σ τ : Type} [Clock τ] {c : Clipper σ τ} {s t : Session σ τ} {d : Deed}
    {ds : List Deed} (h : Session.Course c s ds t) (hd : d ∈ ds) : ∃ s' t', Session.Makes c s' d t' := by
  induction h with
  | nil => cases hd
  | told _ _ ih => exact ih hd
  | cons hmakes _ ih =>
    rcases List.mem_cons.1 hd with rfl | hd
    · exact ⟨_, _, hmakes⟩
    · exact ih hd

namespace Image

variable {σ τ : Type} {c : Clipper σ τ}

/-! ## What is absorbed -/

/-- The assets tell of every download and upload that has failed at which stage it has, and why. -/
structure Absorbs (ds : List Deed) (assets : Assets) : Prop where
  downloads : ∀ url f, .downloaded url (.error f) ∈ ds → ∃ e, f = .clip e ∧
    assets.lookup url = some (.external url (some ⟨"download", e.message⟩))
  uploads : ∀ image f, .uploaded image (.error f) ∈ ds → ∃ e, f = .clip e ∧
    assets.lookup image.url = some (.external image.url (some ⟨"upload", (uploadError image.url e).message⟩))

/-- Faithful assets absorb every failure. -/
theorem Faithful.absorbs {urls : List String} {uploadEnabled : Bool} {s t : Session σ τ} {ds : List Deed}
    {assets : Assets} (h : Faithful urls uploadEnabled s t ds assets) : Absorbs ds assets := by
  have hkeys : (assets.map (·.1)).Nodup := by
    rw [h.keys, ← distinct_eq]
    exact nodup_distinct urls
  cases uploadEnabled with
  | false =>
    obtain ⟨hnotes, -⟩ := h.left rfl
    constructor <;> intro _ _ hd <;> cases hnotes _ hd
  | true =>
    obtain ⟨fates, hdownloads, huploads, rfl⟩ := h.moved rfl
    constructor
    · intro url f hd
      have hmem : (url, .error f) ∈ fates.map Fate.download := hdownloads ▸ List.mem_filterMap.2 ⟨_, hd, rfl⟩
      obtain ⟨fate, hfate, heq⟩ := List.mem_map.1 hmem
      cases fate with
      | notDownloaded url e =>
        cases heq
        exact ⟨e, rfl, (mem_iff_lookup hkeys).1 (List.mem_map_of_mem hfate)⟩
      | _ => cases heq
    · intro image f hd
      have hmem : (image, .error f) ∈ fates.filterMap Fate.upload? := huploads ▸ List.mem_filterMap.2 ⟨_, hd, rfl⟩
      obtain ⟨fate, hfate, heq⟩ := List.mem_filterMap.1 hmem
      cases fate with
      | notUploaded image e =>
        cases heq
        exact ⟨e, rfl, (mem_iff_lookup hkeys).1 (List.mem_map_of_mem hfate)⟩
      | _ => cases heq

/-! ## What escapes -/

/-- Downloads of these URLs that end in the fault of one of them, if in any. -/
def Broken {α : Type} (urls : List String) (ds : List Deed) (r : Except Fault α) : Prop :=
  ∀ f, r = .error f → ∃ url ∈ urls, .downloaded url (.error f) ∈ ds ∧ fault? (.error f) = some f

theorem Broken.ok {α : Type} {urls : List String} {ds : List Deed} {x : α} : Broken urls ds (.ok x) := by
  rintro _ ⟨⟩

theorem Broken.mono {α β : Type} {urls urls' : List String} {ds ds' : List Deed} {f : Fault}
    (h : Broken urls ds (.error f : Except Fault α)) (hurls : urls ⊆ urls') (hds : ds ⊆ ds') :
    Broken urls' ds' (.error f : Except Fault β) := by
  rintro _ ⟨⟩
  obtain ⟨url, hurl, hd, hf⟩ := h f rfl
  exact ⟨url, hurls hurl, hds hd, hf⟩

/-- Uploads that end in the fault of one of them, if in any: an error that concerns the whole document, or
no error of the clipper's own. -/
def Stopped {α : Type} (ds : List Deed) (r : Except Fault α) : Prop :=
  ∀ f, r = .error f → ∃ image, .uploaded image (.error f) ∈ ds ∧ ∀ e, f = .clip e → e.kind.stopsAll = true

theorem Stopped.ok {α : Type} {ds : List Deed} {x : α} : Stopped ds (.ok x) := by
  rintro _ ⟨⟩

theorem Stopped.mono {α β : Type} {ds ds' : List Deed} {f : Fault} (h : Stopped ds (.error f : Except Fault α))
    (hds : ds ⊆ ds') : Stopped ds' (.error f : Except Fault β) := by
  rintro _ ⟨⟩
  obtain ⟨image, hd, hstops⟩ := h f rfl
  exact ⟨image, hds hd, hstops⟩

/-- How a fault ends the resolution of images. -/
inductive Escapes (c : Clipper σ τ) (urls : List String) (ds : List Deed) (f : Fault) : Prop
  /-- The settings give no number of downloads at a time. -/
  | settings : batchSize c.settings.downloadConcurrency = .error f → Escapes c urls ds f
  /-- A download ends in some other way than downloads do. -/
  | download {url : String} : url ∈ urls → .downloaded url (.error f) ∈ ds → fault? (.error f) = some f →
    Escapes c urls ds f
  /-- An upload fails with an error that concerns the whole document, or with none of the clipper's own. -/
  | upload {image : Download} : .uploaded image (.error f) ∈ ds → (∀ e, f = .clip e → e.kind.stopsAll = true) →
    Escapes c urls ds f

/-- Everything that finding out where images live depends on can be read. -/
structure Readable (c : Clipper σ τ) : Prop where
  outside : c.outside.Legible
  detached : c.outside.Detached
  settings : c.settings.Legible
  batches : ∃ size, batchSize c.settings.downloadConcurrency = .ok size

theorem Escapes.mono {urls : List String} {ds ds' : List Deed} {f : Fault} (h : Escapes c urls ds f) (hds : ds ⊆ ds') :
    Escapes c urls ds' f := by
  cases h with
  | settings h => exact .settings h
  | download hurl hd hf => exact .download hurl (hds hd) hf
  | upload hd hstops => exact .upload (hds hd) hstops

variable [Clock τ]

/-- Unless a host fails with an error of the clipper's own, a download that ends in such an error has failed as downloads do. -/
theorem fault?_run (hhost : c.outside.Detached) {url : String} {s : Session σ τ} {e : ClipError}
    (h : (carryOut (Download.run url) c s).1 = .error (.clip e)) : fault? (.error (.clip e)) = none := by
  obtain ⟨-, -, -, hblames⟩ := Download.run_blames hhost url s
  obtain ⟨url', hkind⟩ := hblames e h
  simp [fault?, failure?, hkind]

theorem fault?_of_downloaded (hhost : c.outside.Detached) {s t : Session σ τ} {ds : List Deed}
    (hc : Session.Course c s ds t) {url : String} {e : ClipError} (hd : .downloaded url (.error (.clip e)) ∈ ds) :
    fault? (.error (.clip e)) = none := by
  obtain ⟨s', t', hmakes⟩ := hc.exists_makes hd
  cases hmakes with
  | downloaded hcarry => exact fault?_run hhost (congrArg Prod.fst hcarry)

/-- With ordinary hosts and a limit that is a number, a download ends as downloads do: in an image, or in the error that
it has failed. -/
theorem fault?_ordinary (hhosts : c.outside.Ordinary)
    (hlimit : ∀ size, ∃ b, Download.exceeds size c.settings.maxImageBytes = .ok b) (url : String) (s : Session σ τ) :
    fault? (carryOut (Download.run url) c s).1 = none := by
  obtain ⟨-, -, -, hsettled, -⟩ := Download.run_comes hhosts.foreseen hlimit url s
  cases hr : (carryOut (Download.run url) c s).1 with
  | ok image => rfl
  | error f =>
    obtain ⟨e, rfl⟩ := hsettled f hr
    exact fault?_run hhosts.detached hr

theorem record_returns (found : Downloads) (url : String) (o : Outcome) :
    Follows c (fun _ r => ∃ found', r = .ok found') (record found url o) := by
  unfold record
  cases o with
  | ok image => exact .bind_note (.pure ⟨_, rfl⟩)
  | error e =>
    cases failure? (.error e) with
    | none => exact .pure ⟨_, rfl⟩
    | some message => exact .bind_note (.bind_tell (.pure ⟨_, rfl⟩))

theorem recordAll_returns (found : Downloads) (finished : List (String × Outcome)) :
    Follows c (fun _ r => ∃ found', r = .ok found') (recordAll found finished) := by
  induction finished generalizing found with
  | nil => exact .pure ⟨_, rfl⟩
  | cons p rest ih =>
    rw [recordAll]
    refine .bind (record_returns found p.1 p.2) ?_ fun _ found' _ => ih found'
    rintro _ _ ⟨_, ⟨⟩⟩

theorem downloadBatch_broken (found : Downloads) (urls : List String) :
    Follows c (Broken urls) (downloadBatch found urls) := by
  unfold downloadBatch
  refine .bind (startAll_follows urls) ?_ ?_
  · rintro _ _ ⟨_, ⟨⟩, _⟩
  rintro _ outcomes ⟨_, ⟨⟩, rfl, -, rfl⟩
  refine .bind_read (.bind (recordAll_returns _ _) ?_ fun ds found' _ => ?_)
  · rintro _ _ ⟨_, ⟨⟩⟩
  split
  next f hf =>
    obtain ⟨p, hp, hfault⟩ := exists_fault? hf
    obtain ⟨i, -, hi⟩ := List.mem_filterMap.1 hp
    have hmem := List.mem_of_getElem? hi
    have hout := fault?_eq_some hfault
    refine .throw ?_
    rintro _ ⟨⟩
    refine ⟨p.1, List.mem_map_of_mem hmem, ?_, hout ▸ hfault⟩
    have hstart : .downloaded p.1 p.2 ∈ outcomes.flatMap started := List.mem_flatMap_of_mem hmem (by simp [started])
    exact List.mem_append_left _ (hout ▸ hstart)
  next => exact .pure .ok

theorem downloadBatches_broken (found : Downloads) (batches : List (List String)) :
    Follows c (Broken batches.flatten) (downloadBatches found batches) := by
  induction batches generalizing found with
  | nil => exact .pure .ok
  | cons batch rest ih =>
    rw [downloadBatches, List.flatten_cons]
    refine .bind (downloadBatch_broken found batch) ?_ fun ds found' _ => (ih found').mono fun es r hes => ?_
    · exact fun ds f h => h.mono (List.subset_append_left _ _) (List.Subset.refl _)
    · cases r with
      | ok => exact .ok
      | error f => exact hes.mono (List.subset_append_right _ _) (List.subset_append_right _ _)

/-- Only the settings or a download that ends in some other way than downloads do ends the downloads of images. -/
theorem downloadAll_broken (urls : List String) :
    Follows c (fun ds r => ∀ f, r = .error f → batchSize c.settings.downloadConcurrency = .error f ∨
      ∃ url ∈ urls, .downloaded url (.error f) ∈ ds ∧ fault? (.error f) = some f) (downloadAll urls) := by
  unfold downloadAll
  refine .bind_read (.bind_orFault ?_ fun size _ => ?_)
  · rintro f hf _ ⟨⟩
    exact .inl hf
  have hflat : (chunks size urls).flatten = urls := flatten_chunks size urls
  refine .bind (downloadBatches_broken _ _) ?_ fun _ _ _ => .bind_tell (.pure nofun)
  rintro ds f hf _ ⟨⟩
  rw [hflat] at hf
  exact .inr (hf f rfl)

theorem downloadAll_escapes (urls : List String) :
    Follows c (fun ds r => ∀ f, r = .error f → Escapes c urls ds f) (downloadAll urls) := by
  apply (downloadAll_broken urls).mono
  intro ds r h f hf
  rcases h f hf with hf | ⟨url, hurl, hd, hf⟩
  · exact .settings hf
  · exact .download hurl hd hf

/-- An error of an upload is that, or the error that it has come from. -/
theorem uploadError_eq {url : String} {e : ClipError} (h : ∀ u, (uploadError url e).kind ≠ .upload u) :
    uploadError url e = e := by
  obtain ⟨kind, message, status⟩ := e
  cases kind with
  | rateLimit | auth => rfl
  | _ => exact absurd rfl (h _)

/-- Only its upload ends finding out where an image lives. -/
theorem resolve_stopped (found : Downloads) (url : String) : Follows c Stopped (resolve found url) := by
  unfold resolve
  split
  · exact .pure .ok
  next image _ =>
    refine .bind_attempt (upload_follows image) fun ds o hmoved => ?_
    cases hmoved with
    | done id => exact .pure .ok
    | failed e =>
      dsimp only
      split
      · exact .bind_tell (.pure .ok)
      next hkind =>
        have hstops := stopsAll_uploadError hkind
        rw [uploadError_eq hkind] at hstops ⊢
        refine .throw ?_
        rintro _ ⟨⟩
        refine ⟨image, by simp [Fate.deeds], ?_⟩
        rintro _ ⟨⟩
        exact hstops
    | @broken f hf =>
      cases f with
      | clip e => exact absurd rfl (hf e)
      | _ =>
        refine .throw ?_
        rintro _ ⟨⟩
        refine ⟨image, by simp, ?_⟩
        rintro _ ⟨⟩

theorem resolveEach_stopped (found : Downloads) (urls : List String) :
    Follows c Stopped (resolveEach found urls) := by
  induction urls with
  | nil => exact .pure .ok
  | cons url rest ih =>
    rw [resolveEach]
    refine .bind (resolve_stopped found url) (fun ds f h => h.mono (List.Subset.refl _)) fun ds asset _ => ?_
    refine .bind_note (.bind ih (fun es f h => h.mono ?_) fun es assets _ => .pure .ok)
    exact List.subset_append_of_subset_right _ (List.subset_cons_self _ _)

theorem resolveAll_escapes (urls : List String) (uploadEnabled : Bool) :
    Follows c (fun ds r => ∀ f, r = .error f → Escapes c (distinct urls) ds f) (resolveAll urls uploadEnabled) := by
  unfold resolveAll
  dsimp only
  refine .bind (discoverAll_follows _) ?_ fun _ _ _ => ?_
  · rintro _ _ ⟨-, ⟨⟩⟩
  cases uploadEnabled with
  | false =>
    refine (leaveEach_follows _).mono ?_
    rintro _ _ ⟨-, rfl⟩
    exact nofun
  | true =>
    refine .bind (downloadAll_escapes _) ?_ fun ds found _ => ?_
    · rintro ds f hf _ ⟨⟩
      exact (hf f rfl).mono (List.subset_append_right _ _)
    · refine .bind (resolveEach_stopped found _) ?_ fun _ _ _ => .bind_tell (.pure nofun)
      rintro es f hf _ ⟨⟩
      obtain ⟨image, hd, hstops⟩ := hf f rfl
      exact .upload (List.mem_append_right _ (List.mem_append_right _ hd)) hstops

/-- Where everything can be read, only an error that concerns the whole document escapes. -/
theorem Escapes.stopsAll {urls : List String} {s t : Session σ τ} {ds : List Deed} {f : Fault}
    (h : Escapes c urls ds f) (hc : Session.Course c s ds t) (hread : Readable c) :
    ∃ e, f = .clip e ∧ e.kind.stopsAll = true := by
  cases h with
  | settings h =>
    obtain ⟨size, hsize⟩ := hread.batches
    rw [hsize] at h
    cases h
  | @download url _ hd hf =>
    obtain ⟨s', t', hmakes⟩ := hc.exists_makes hd
    cases hmakes with
    | downloaded hcarry =>
      have hnone := fault?_ordinary ⟨hread.outside.fetched, hread.detached⟩ hread.settings.limit url s'
      rw [hcarry, hf] at hnone
      cases hnone
  | @upload image hd hstops =>
    obtain ⟨s', t', hmakes⟩ := hc.exists_makes hd
    cases hmakes with
    | uploaded hcarry =>
      obtain ⟨-, -, -, hcomes, -⟩ := Act.upload_comes hread.outside hread.settings image.url image.fileName
        image.contentType image.content s'
      rw [hcarry] at hcomes
      obtain ⟨e, rfl⟩ := hcomes f rfl
      exact ⟨e, rfl, hstops e rfl⟩

/-- Finding out where images live absorbs every failure of a download or an upload that does not
escape, and where everything can be read only errors that concern the whole document escape. -/
theorem resolveAll_absorbs (hfin : c.outside.Finishes) (urls : List String) (uploadEnabled : Bool) (s : Session σ τ) :
    ∃ ds, Session.Course c s ds (carryOut (resolveAll urls uploadEnabled) c s).2 ∧
      (∀ assets, (carryOut (resolveAll urls uploadEnabled) c s).1 = .ok assets → Absorbs ds assets) ∧
      ∀ f, (carryOut (resolveAll urls uploadEnabled) c s).1 = .error f →
        Escapes c (distinct urls) ds f ∧ (Readable c → ∃ e, f = .clip e ∧ e.kind.stopsAll = true) := by
  cases hr : (carryOut (resolveAll urls uploadEnabled) c s).1 with
  | error f =>
    obtain ⟨ds, hc, hescapes⟩ := resolveAll_escapes urls uploadEnabled s
    refine ⟨ds, hc, nofun, ?_⟩
    rintro _ ⟨⟩
    exact ⟨hescapes f hr, (hescapes f hr).stopsAll hc⟩
  | ok assets =>
    obtain ⟨ds, hc, hres⟩ := resolveAll_follows hfin urls uploadEnabled s
    refine ⟨ds, hc, ?_, nofun⟩
    rintro _ ⟨⟩
    rw [hr] at hres
    cases hres with
    | left => exact (faithful_left hc).absorbs
    | moved hds hg hes => exact (faithful_moved hds (hg.all _ rfl).1 hes hc).absorbs

section Careless

open Sweep

/-- A clipper and the attentive service. -/
def attentiveClipper : Clipper Unit Int := { hospitableClipper with outside := attentiveService }

theorem attentive_reads : Readable attentiveClipper where
  outside := attentive_legible
  detached _ _ _ := nofun
  settings := ⟨⟨_, rfl⟩, fun _ => ⟨_, rfl⟩, ⟨_, rfl⟩⟩
  batches := ⟨_, rfl⟩

/-- The picture whose host cannot be reached stays where it is, for that reason. -/
theorem pictures_absorbed :
    attentiveService.Finishes ∧ Readable attentiveClipper ∧
      (match (carryOut (resolveAll pictures true) attentiveClipper hospitableSession).1 with
        | .ok assets => decide (assets.lookup "http://h/b" =
            some (.external "http://h/b" (some ⟨"download", "Request failed: no route"⟩)))
        | _ => false) = true ∧
      ∃ ds, Session.Course attentiveClipper hospitableSession ds
          (carryOut (resolveAll pictures true) attentiveClipper hospitableSession).2 ∧
        (∀ assets, (carryOut (resolveAll pictures true) attentiveClipper hospitableSession).1 = .ok assets →
          Absorbs ds assets) ∧
        ∀ f, (carryOut (resolveAll pictures true) attentiveClipper hospitableSession).1 = .error f →
          Escapes attentiveClipper (distinct pictures) ds f ∧
            (Readable attentiveClipper → ∃ e, f = .clip e ∧ e.kind.stopsAll = true) :=
  ⟨fun _ => List.reverse_perm _, attentive_reads, by decide +kernel,
    resolveAll_absorbs (fun _ => List.reverse_perm _) pictures true hospitableSession⟩

/-- The missing id of the upload of one picture ends finding out where images live. -/
theorem careless_escapes :
    ¬ ∀ f, (carryOut (resolveAll ["data:image/gif,a"] true) { hospitableClipper with outside := carelessService }
      hospitableSession).1 = .error f → ∃ e, f = .clip e ∧ e.kind.stopsAll = true := by
  intro h
  have hmisses : (match (carryOut (resolveAll ["data:image/gif,a"] true)
      { hospitableClipper with outside := carelessService } hospitableSession).1 with
      | .ok _ => false
      | .error f => misses "id" f) = true := by decide +kernel
  split at hmisses
  next => cases hmisses
  next f hf =>
    obtain ⟨e, rfl, -⟩ := h f hf
    cases hmisses

end Careless

end Image

end WebClip
