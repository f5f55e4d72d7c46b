import WebClip.Proofs.Batches
/-!
# The fates of images

Every image that is to be moved into an upload is downloaded once, and if that succeeds uploaded
once. Its fate says how far it came, and the asset known of it in the end tells exactly that.
-/

namespace WebClip

open Act

namespace Image

/-- What became of an image that was to be moved into an upload. -/
inductive Fate where
  | notDownloaded (url : String) (e : ClipError)
  | notUploaded (image : Download) (e : ClipError)
  | uploaded (image : Download) (id : Value)

namespace Fate

/-- The URL of the image. -/
def url : Fate → String
  | notDownloaded url _ => url
  | notUploaded image _ | uploaded image _ => image.url

/-- What came of the download. -/
def download : Fate → String × Outcome
  | notDownloaded url e => (url, .error (.clip e))
  | notUploaded image _ | uploaded image _ => (image.url, .ok image)

/-- What came of the upload, if it came so far. -/
def upload? : Fate → Option (Download × Except Fault Value)
  | notDownloaded .. => none
  | notUploaded image e => some (image, .error (.clip e))
  | uploaded image id => some (image, .ok id)

/-- Where the image lives. -/
def asset : Fate → Asset
  | notDownloaded url e => .external url (some ⟨"download", e.message⟩)
  | notUploaded image e => .external image.url (some ⟨"upload", (uploadError image.url e).message⟩)
  | uploaded image id => uploadedAt image.url id

/-- The deeds after the download, until the image is resolved. -/
def deeds : Fate → List Deed
  | notDownloaded .. => []
  | notUploaded image e =>
    [.noted image.url .uploading, .uploaded image (.error (.clip e)), .noted image.url .uploadFailed]
  | uploaded image id => [.noted image.url .uploading, .uploaded image (.ok id), .noted image.url .uploaded]

variable (f : Fate)

@[simp] theorem download_fst : f.download.1 = f.url := by cases f <;> rfl

theorem asset_resolved : f.asset.kind ≠ .unresolved ∧ f.asset.sourceUrl = f.url := by
  cases f <;> exact ⟨nofun, rfl⟩

theorem downloads_deeds : f.deeds.filterMap Deed.download? = [] := by cases f <;> rfl

theorem uploads_deeds : f.deeds.filterMap Deed.upload? = f.upload?.toList := by cases f <;> rfl

theorem notes_deeds {p : String × ImageState} (h : p ∈ f.deeds.filterMap Deed.note?) : p.1 = f.url := by
  cases f with
  | notDownloaded => cases h
  | _ =>
    simp only [deeds, Deed.note?, List.filterMap_cons, List.filterMap_nil, List.mem_cons, List.not_mem_nil,
      or_false] at h
    rcases h with rfl | rfl <;> rfl

end Fate

/-! ## Uploads -/

/-- The course of an upload of a downloaded image. -/
inductive Moved (image : Download) : List Deed → Except Fault Value → Prop
  | done (id) : Moved image (Fate.uploaded image id).deeds (.ok id)
  | failed (e) : Moved image (Fate.notUploaded image e).deeds (.error (.clip (uploadError image.url e)))
  | broken {f : Fault} : (∀ e, f ≠ .clip e) →
    Moved image [.noted image.url .uploading, .uploaded image (.error f)] (.error f)

/-- The course of finding out where images live whose downloads have come to these outcomes. -/
inductive Settles : List (String × Outcome) → List Deed → Except Fault Assets → Prop
  | nil : Settles [] [] (.ok [])
  | cons (f : Fate) {outcomes ds r} : Settles outcomes ds r →
    Settles (f.download :: outcomes) (f.deeds ++ .noted f.url .resolved :: ds) (r.map ((f.url, f.asset) :: ·))
  | stopped {image : Download} {outcomes ds f} : Moved image ds (.error f) →
    (∀ e, f = .clip e → e.kind.stopsAll = true) → Settles ((image.url, .ok image) :: outcomes) ds (.error f)

/-- Each image is uploaded once if it was downloaded, in the order of the URLs, and resolved. -/
theorem Settles.fates {outcomes : List (String × Outcome)} {ds : List Deed} {r : Except Fault Assets}
    (h : Settles outcomes ds r) {assets : Assets} (hr : r = .ok assets) :
    ∃ fates : List Fate, outcomes = fates.map Fate.download ∧ assets = fates.map (fun f => (f.url, f.asset)) ∧
      ds = fates.flatMap fun f => f.deeds ++ [.noted f.url .resolved] := by
  induction h generalizing assets with
  | nil =>
    cases hr
    exact ⟨[], rfl, rfl, rfl⟩
  | @cons f outcomes ds r _ ih =>
    cases r with
    | error => cases hr
    | ok rest =>
      cases hr
      obtain ⟨fates, rfl, rfl, rfl⟩ := ih rfl
      exact ⟨f :: fates, rfl, rfl, by simp⟩
  | stopped => cases hr

theorem downloads_settled (fates : List Fate) :
    (fates.flatMap fun f => f.deeds ++ [.noted f.url .resolved]).filterMap Deed.download? = [] := by
  induction fates with
  | nil => rfl
  | cons f rest ih =>
    rw [List.flatMap_cons, List.filterMap_append, List.filterMap_append, f.downloads_deeds, ih]
    rfl

theorem uploads_settled (fates : List Fate) :
    (fates.flatMap fun f => f.deeds ++ [.noted f.url .resolved]).filterMap Deed.upload? =
      fates.filterMap Fate.upload? := by
  induction fates with
  | nil => rfl
  | cons f rest ih =>
    rw [List.flatMap_cons, List.filterMap_append, List.filterMap_append, f.uploads_deeds, ih]
    cases hu : f.upload? <;> simp [Deed.upload?, hu]

variable {σ τ : Type} [Clock τ] {c : Clipper σ τ}

theorem upload_follows (image : Download) : Follows c (Moved image) (upload image) := by
  unfold upload
  refine .bind_note (.bind_attempt (.upload image) ?_)
  rintro _ o rfl
  cases o with
  | ok id => exact .bind_note (.pure (.done id))
  | error f =>
    cases f with
    | clip e => exact .bind_note (.throw (.failed e))
    | _ => exact .throw (.broken nofun)

theorem message_of_failure? {e : ClipError} {message : String} (h : failure? (.error (.clip e)) = some message) :
    e.message = message := by
  unfold failure? at h
  dsimp only at h
  split at h
  · exact Option.some.inj h
  · cases h

/-- An error of an upload is that, or it concerns the whole document. -/
theorem stopsAll_uploadError {url : String} {e : ClipError} (h : ∀ u, (uploadError url e).kind ≠ .upload u) :
    (uploadError url e).kind.stopsAll = true := by
  obtain ⟨kind, message, status⟩ := e
  cases kind with
  | rateLimit | auth => rfl
  | _ => exact absurd rfl (h _)

/-- Finding out where one image lives comes to a fate of it, or ends everything. -/
theorem resolve_follows {found : Downloads} {url : String} {o : Outcome}
    (hknown : found.images.lookup url = o.toOption ∧ found.errors.lookup url = failure? o)
    (hfault : fault? o = none) (hown : ∀ image, o = .ok image → image.url = url) :
    Follows c (fun ds r => (∃ f : Fate, f.download = (url, o) ∧ r = .ok f.asset ∧ ds = f.deeds) ∨
      ∃ image f, o = .ok image ∧ Moved image ds (.error f) ∧ (∀ e, f = .clip e → e.kind.stopsAll = true) ∧
        r = .error f) (resolve found url) := by
  obtain ⟨himages, herrors⟩ := hknown
  unfold resolve
  rw [himages]
  cases o with
  | error f =>
    -- a download that is no fault of its batch has failed with a message
    cases hf : failure? (.error f) with
    | none => simp [fault?, hf] at hfault
    | some message =>
      cases f with
      | clip e =>
        refine .pure (.inl ⟨.notDownloaded url e, rfl, ?_, rfl⟩)
        rw [herrors, hf, Fate.asset, message_of_failure? hf]
        rfl
      | _ => cases hf
  | ok image =>
    obtain rfl := hown image rfl
    refine .bind_attempt (upload_follows image) ?_
    rintro ds o hmoved
    cases hmoved with
    | done id => exact .pure (.inl ⟨.uploaded image id, rfl, rfl, by simp⟩)
    | failed e =>
      dsimp only
      split
      · exact .bind_tell (.pure (.inl ⟨.notUploaded image e, rfl, rfl, by simp⟩))
      next hkind =>
        refine .throw (.inr ⟨image, _, rfl, by simpa using Moved.failed e, ?_, rfl⟩)
        rintro _ ⟨⟩
        exact stopsAll_uploadError hkind
    | @broken f hf =>
      cases f with
      | clip e => exact absurd rfl (hf e)
      | _ => exact .throw (.inr ⟨image, _, rfl, by simpa using Moved.broken hf, fun e he => absurd he (hf e), rfl⟩)

theorem resolveEach_follows {found : Downloads} {outcomes : List (String × Outcome)}
    (hknown : ∀ p ∈ outcomes, found.images.lookup p.1 = p.2.toOption ∧ found.errors.lookup p.1 = failure? p.2)
    (hfault : ∀ p ∈ outcomes, fault? p.2 = none) (hown : Own outcomes) :
    Follows c (Settles outcomes) (resolveEach found (outcomes.map (·.1))) := by
  induction outcomes with
  | nil => exact .pure .nil
  | cons p rest ih =>
    obtain ⟨hknown, hknowns⟩ := List.forall_mem_cons.1 hknown
    obtain ⟨hfault, hfaults⟩ := List.forall_mem_cons.1 hfault
    obtain ⟨hown, howns⟩ := List.forall_mem_cons.1 hown
    rw [List.map_cons, resolveEach]
    refine .bind (resolve_follows hknown hfault hown) ?_ ?_
    · rintro ds e (⟨_, _, ⟨⟩, _⟩ | ⟨image, f, ho, hmoved, hstops, ⟨⟩⟩)
      obtain ⟨url, o⟩ := p
      obtain rfl := hown image ho
      obtain rfl : o = .ok image := ho
      exact .stopped hmoved hstops
    · rintro _ _ (⟨f, hf, ⟨⟩, rfl⟩ | ⟨_, _, _, _, _, ⟨⟩⟩)
      obtain rfl : f.download = p := hf
      refine .bind_note (.bind (ih hknowns hfaults howns) ?_ ?_)
      · intro ds e h
        exact f.download_fst ▸ .cons f h
      · intro ds assets h
        refine .pure ?_
        rw [List.append_nil, f.download_fst]
        exact .cons f h

/-! ## Resolution -/

/-- The deeds of discovering images. -/
def discovered (urls : List String) : List Deed := urls.map (.noted · .discovered)

/-- The deeds of leaving images where they are. -/
def leftAlone (urls : List String) : List Deed := urls.map (.noted · .resolved)

/-- The course of finding out where the images at distinct URLs live, moving them into uploads or not. -/
inductive Resolves (urls : List String) : Bool → List Deed → Except Fault Assets → Prop
  | left : Resolves urls false (discovered urls ++ leftAlone urls) (.ok (urls.map fun url => (url, .external url)))
  | broken {outcomes ds f} : Batched outcomes ds → Gathers [] urls outcomes (.error f) →
    Resolves urls true (discovered urls ++ ds) (.error f)
  | moved {outcomes ds es found r} : Batched outcomes ds → Gathers [] urls outcomes (.ok found) →
    Settles outcomes es r → Resolves urls true (discovered urls ++ (ds ++ es)) r

theorem discoverAll_follows (urls : List String) :
    Follows c (fun ds r => ds = discovered urls ∧ r = .ok ()) (discoverAll urls) := by
  induction urls with
  | nil => exact .pure ⟨rfl, rfl⟩
  | cons url rest ih =>
    rw [discoverAll]
    refine .bind_note (ih.mono ?_)
    rintro _ _ ⟨rfl, rfl⟩
    exact ⟨rfl, rfl⟩

theorem leaveEach_follows (urls : List String) :
    Follows c (fun ds r => ds = leftAlone urls ∧ r = .ok (urls.map fun url => (url, .external url)))
      (leaveEach urls) := by
  induction urls with
  | nil => exact .pure ⟨rfl, rfl⟩
  | cons url rest ih =>
    rw [leaveEach]
    refine .bind_note (.bind ih ?_ ?_)
    · rintro _ _ ⟨-, ⟨⟩⟩
    · rintro _ _ ⟨rfl, ⟨⟩⟩
      exact .pure ⟨by simp [leftAlone], rfl⟩

theorem resolveAll_follows (hfin : c.outside.Finishes) (urls : List String) (uploadEnabled : Bool) :
    Follows c (Resolves (distinct urls) uploadEnabled) (resolveAll urls uploadEnabled) := by
  unfold resolveAll
  dsimp only
  refine .bind (discoverAll_follows _) ?_ ?_
  · rintro _ _ ⟨-, ⟨⟩⟩
  rintro _ _ ⟨rfl, -⟩
  cases uploadEnabled with
  | false =>
    refine (leaveEach_follows _).mono ?_
    rintro _ _ ⟨rfl, rfl⟩
    exact .left
  | true =>
    refine .bind (downloadAll_follows hfin (nodup_distinct urls)) ?_ ?_
    · rintro ds f ⟨outcomes, hds, hg⟩
      exact .broken hds hg
    rintro ds found ⟨outcomes, hds, hg⟩
    obtain ⟨hurls, hknows, hfault⟩ := hg.all found rfl
    rw [List.nil_append] at hknows
    rw [← hurls]
    refine .bind (resolveEach_follows hknows.known hfault hg.own) ?_ ?_
    · intro es f hes
      rw [hurls]
      exact .moved hds hg hes
    · intro es assets hes
      refine .bind_tell (.pure ?_)
      rw [hurls, List.append_nil]
      exact .moved hds hg hes

/-! ## The states of images -/

/-- What is noted last of each image is that it is resolved, and nothing is noted of any other. -/
theorem lookup_resolved {α : Type} (xs : List α) (url : α → String) (deeds : α → List Deed)
    (h : ∀ x ∈ xs, ∀ p ∈ (deeds x).filterMap Deed.note?, p.1 = url x) (key : String) :
    ((xs.flatMap fun x => deeds x ++ [.noted (url x) .resolved]).filterMap Deed.note?).reverse.lookup key =
      if key ∈ xs.map url then some .resolved else none := by
  induction xs with
  | nil => rfl
  | cons x rest ih =>
    obtain ⟨hx, hrest⟩ := List.forall_mem_cons.1 h
    rw [List.flatMap_cons, List.filterMap_append, List.reverse_append, List.lookup_append, ih hrest, List.map_cons]
    by_cases hmem : key ∈ rest.map url
    · rw [if_pos hmem, if_pos (List.mem_cons_of_mem _ hmem)]
      rfl
    rw [if_neg hmem, List.filterMap_append, List.reverse_append]
    by_cases hkey : key = url x
    · rw [if_pos (hkey ▸ List.mem_cons_self), hkey]
      exact List.lookup_cons_self
    · have hnone : ((deeds x).filterMap Deed.note?).reverse.lookup key = none := by
        rw [List.lookup_eq_none_iff]
        intro p hp
        simpa [hx p (List.mem_reverse.1 hp)] using hkey
      rw [if_neg (by simpa [hkey] using hmem)]
      show List.lookup key ((url x, ImageState.resolved) :: _) = none
      rw [List.lookup_cons, beq_false_of_ne hkey]
      exact hnone

/-- The state of an image after a course is the last one noted of it. -/
theorem imageState?_of_course {s t : Session σ τ} {ds : List Deed} (h : Session.Course c s ds t) (url : String) :
    t.imageState? url = ((ds.filterMap Deed.note?).reverse.lookup url).or (s.imageState? url) := by
  rw [Session.imageState?, h.transitions, List.lookup_append]
  rfl

/-- After deeds that note nothing of other images, what has been noted last is what counts. -/
theorem imageState?_of_resolved {s t : Session σ τ} {ds es : List Deed} (h : Session.Course c s (ds ++ es) t)
    {urls : List String} (hds : ∀ d ∈ ds, ∀ p, d.note? = some p → p.1 ∈ urls)
    (hes : ∀ key, (es.filterMap Deed.note?).reverse.lookup key = if key ∈ urls then some .resolved else none)
    (url : String) : t.imageState? url = if url ∈ urls then some .resolved else s.imageState? url := by
  rw [imageState?_of_course h, List.filterMap_append, List.reverse_append, List.lookup_append, hes]
  split
  next => rfl
  next hurl =>
    have hnone : (ds.filterMap Deed.note?).reverse.lookup url = none := by
      rw [List.lookup_eq_none_iff]
      intro p hp
      obtain ⟨d, hd, hp⟩ := List.mem_filterMap.1 (List.mem_reverse.1 hp)
      have hmem := hds d hd p hp
      simpa using fun he : url = p.1 => hurl (he ▸ hmem)
    rw [hnone]
    rfl

/-! ## Faithfulness -/

/-- The assets found of some URLs by these deeds are complete and faithful. -/
structure Faithful (urls : List String) (uploadEnabled : Bool) (s t : Session σ τ) (ds : List Deed)
    (assets : Assets) : Prop where
  /-- They are of the URLs that are not empty, by their first occurrences. -/
  keys : assets.map (·.1) = (urls.filter (!·.isEmpty)).eraseDups
  settled : ∀ p ∈ assets, p.2.kind ≠ .unresolved ∧ p.2.sourceUrl = p.1
  states : ∀ url, t.imageState? url = if url ∈ assets.map (·.1) then some .resolved else s.imageState? url
  /-- Every image is downloaded once and then uploaded once, in their order, and the assets tell how far each came. -/
  moved : uploadEnabled = true → ∃ fates : List Fate, ds.filterMap Deed.download? = fates.map Fate.download ∧
    ds.filterMap Deed.upload? = fates.filterMap Fate.upload? ∧ assets = fates.map fun f => (f.url, f.asset)
  /-- Nothing outside is reached, and every image stays where it is. -/
  left : uploadEnabled = false → (∀ d ∈ ds, d.isNote = true) ∧ t.events = s.events ∧ t.outside = s.outside ∧
    ∀ p ∈ assets, p.2 = .external p.1

theorem faithful_left {urls : List String} {s t : Session σ τ}
    (h : Session.Course c s (discovered (distinct urls) ++ leftAlone (distinct urls)) t) :
    Faithful urls false s t (discovered (distinct urls) ++ leftAlone (distinct urls))
      ((distinct urls).map fun url => (url, .external url)) := by
  have hkeys : ((distinct urls).map fun url => (url, Asset.external url)).map (·.1) = distinct urls := by
    simp [Function.comp_def]
  have hnotes : ∀ d ∈ discovered (distinct urls) ++ leftAlone (distinct urls), d.isNote = true := by
    intro d hd
    simp only [discovered, leftAlone, List.mem_append, List.mem_map] at hd
    rcases hd with ⟨_, _, rfl⟩ | ⟨_, _, rfl⟩ <;> rfl
  refine ⟨hkeys.trans (distinct_eq urls), ?_, ?_, nofun, fun _ => ?_⟩
  · simp [Asset.external]
  · rw [hkeys]
    refine imageState?_of_resolved h ?_ fun key => ?_
    · intro d hd p hp
      obtain ⟨url, hurl, rfl⟩ := List.mem_map.1 hd
      cases hp
      exact hurl
    · have hlast := lookup_resolved (distinct urls) id (fun _ => []) (by simp) key
      rwa [List.map_id, show ((distinct urls).flatMap fun url => [] ++ [Deed.noted (id url) .resolved]) =
        leftAlone (distinct urls) from List.map_eq_flatMap.symm] at hlast
  · obtain ⟨hevents, houtside⟩ := h.nothing_reached hnotes
    exact ⟨hnotes, hevents, houtside, by simp⟩

theorem faithful_moved {urls : List String} {s t : Session σ τ} {outcomes : List (String × Outcome)}
    {ds es : List Deed} {assets : Assets} (hds : Batched outcomes ds) (hurls : outcomes.map (·.1) = distinct urls)
    (hes : Settles outcomes es (.ok assets))
    (h : Session.Course c s (discovered (distinct urls) ++ (ds ++ es)) t) :
    Faithful urls true s t (discovered (distinct urls) ++ (ds ++ es)) assets := by
  obtain ⟨fates, rfl, rfl, rfl⟩ := hes.fates rfl
  have hkeys : (fates.map fun f => (f.url, f.asset)).map (·.1) = distinct urls := by
    rw [← hurls, List.map_map, List.map_map]
    simp [Function.comp_def]
  refine ⟨hkeys.trans (distinct_eq urls), ?_, ?_, fun _ => ⟨fates, ?_, ?_, rfl⟩, nofun⟩
  · intro p hp
    obtain ⟨f, -, rfl⟩ := List.mem_map.1 hp
    exact f.asset_resolved
  · rw [hkeys]
    rw [← List.append_assoc] at h
    refine imageState?_of_resolved h ?_ fun key => ?_
    · intro d hd p hp
      rcases List.mem_append.1 hd with hd | hd
      · obtain ⟨url, hurl, rfl⟩ := List.mem_map.1 hd
        cases hp
        exact hurl
      · obtain ⟨o, ho, rfl | ⟨state, rfl⟩⟩ := hds.mem hd
        · cases hp
        · cases hp
          exact hurls ▸ List.mem_map_of_mem ho
    · rw [lookup_resolved fates Fate.url Fate.deeds fun f _ p hp => f.notes_deeds hp, ← hkeys, List.map_map]
      rfl
  · rw [List.filterMap_append, List.filterMap_append, hds.downloads, downloads_settled, List.append_nil]
    simp [discovered, Deed.download?]
  · have hnone : ds.filterMap Deed.upload? = [] := by
      rw [List.filterMap_eq_nil_iff]
      intro d hd
      obtain ⟨o, -, rfl | ⟨state, rfl⟩⟩ := hds.mem hd <;> rfl
    rw [List.filterMap_append, List.filterMap_append, hnone, uploads_settled]
    simp [discovered, Deed.upload?]

/-- Finding out where images live is complete and faithful, whatever the hosts of the images and the service answer. -/
theorem resolveAll_faithful (hfin : c.outside.Finishes) (urls : List String) (uploadEnabled : Bool) (s : Session σ τ) :
    ∃ ds, Session.Course c s ds (carryOut (resolveAll urls uploadEnabled) c s).2 ∧
      ∀ assets, (carryOut (resolveAll urls uploadEnabled) c s).1 = .ok assets →
        Faithful urls uploadEnabled s (carryOut (resolveAll urls uploadEnabled) c s).2 ds assets := by
  obtain ⟨ds, hc, hres⟩ := resolveAll_follows hfin urls uploadEnabled s
  refine ⟨ds, hc, fun assets hr => ?_⟩
  rw [hr] at hres
  cases hres with
  | left => exact faithful_left hc
  | moved hds hg hes => exact faithful_moved hds (hg.all _ rfl).1 hes hc

section Pictures

instance : Clock Int where
  decideLe := inferInstance

/-- A service that takes every file into the same upload, while no host of images answers. Of the
downloads of a batch the last one started ends first. -/
def hospitable : Outside Unit Int where
  now _ := 0
  date _ := ""
  ask _ _ := (.silence, ())
  upload _ _ := (.answer { chunks := ["\x7b\"id\":\"1\",\"status\":\"uploaded\"\x7d".toUTF8] }, ())
  fetch _ _ := (.failure (.broken "no route"), ())
  finish urls := (List.range urls.length).reverse

theorem hospitable_finishes : hospitable.Finishes := fun _ => List.reverse_perm _

/-- A clipper that moves images into uploads. -/
def hospitableClipper : Clipper Unit Int := { outside := hospitable, settings := {}, token := "" }

/-- Its session, before anything has happened. -/
def hospitableSession : Session Unit Int := { outside := (), budget := { perMinute := 60 } }

/-- An image that comes with its URL, twice, and one whose host cannot be reached. -/
def pictures : List String := ["data:image/gif,a", "", "http://h/b", "data:image/gif,a"]

theorem pictures_faithful :
    hospitable.Finishes ∧
      (match (carryOut (resolveAll pictures true) hospitableClipper hospitableSession).1 with
        | .ok assets => decide (assets = [("data:image/gif,a", .uploaded "data:image/gif,a" "1"),
            ("http://h/b", .external "http://h/b" (some ⟨"download", "Request failed: no route"⟩))])
        | _ => false) = true ∧
      ∃ ds, Session.Course hospitableClipper hospitableSession ds
          (carryOut (resolveAll pictures true) hospitableClipper hospitableSession).2 ∧
        ∀ assets, (carryOut (resolveAll pictures true) hospitableClipper hospitableSession).1 = .ok assets →
          Faithful pictures true hospitableSession
            (carryOut (resolveAll pictures true) hospitableClipper hospitableSession).2 ds assets :=
  ⟨hospitable_finishes, by decide +kernel,
    resolveAll_faithful hospitable_finishes pictures true hospitableSession⟩

end Pictures

end Image

end WebClip
