import Mathlib.Data.List.Induction
import WebClip.Proofs.Bindings
import WebClip.Image.Resolve
import WebClip.Proofs.Requests
/-!
# How images are resolved

Downloads only fetch, and what they find is known by the URL it was asked for. An image is
noted as uploaded exactly when its upload has given an id, and that id is then where the
assets say it lives.
-/

namespace WebClip

open Act

/-! ## What downloads find -/

namespace Download

variable {url : String}

/-- The image of a URL, or a fault that is not the error of a page written in part. -/
def Found (url : String) (o : Except Fault Download) : Prop := NoPartial o ∧ ∀ d, o = .ok d → d.url = url

theorem Found.error {e : Fault} (h : e.isPartial = false) : Found url (.error e) := by
  refine ⟨.error h, ?_⟩
  rintro d ⟨⟩

theorem Found.ok {d : Download} (h : d.url = url) : Found url (.ok d) := by
  refine ⟨.ok d, ?_⟩
  rintro _ ⟨⟩
  exact h

theorem noPartial_exceeds (size : Nat) (limit : Value) : NoPartial (exceeds size limit) := by
  unfold exceeds
  split
  all_goals first | exact .ok _ | exact .error rfl

theorem noPartial_gather (url : String) (limit : Value) (content : ByteArray) (parts : List ByteArray) :
    NoPartial (gather url limit content parts) := by
  induction parts generalizing content with
  | nil => exact .ok content
  | cons part rest ih =>
    rw [gather]
    split
    next e he => exact .error (noPartial_exceeds _ _ e he)
    next => exact .error rfl
    next => exact ih _

theorem noPartial_checkLength (url : String) (limit : Value) (r : HttpReply) :
    NoPartial (checkLength url limit r) := by
  unfold checkLength
  split
  · exact .ok ()
  · split
    · exact .error rfl
    · split
      next e he => exact .error (noPartial_exceeds _ _ e he)
      next => exact .error rfl
      next => exact .ok ()

theorem found_ofData (limit : Value) (url : String) : Found url (ofData limit url) := by
  unfold ofData
  dsimp only
  repeat' split
  all_goals first
    | exact .ok rfl
    | exact .error rfl
    | exact .error (noPartial_exceeds _ _ _ ‹_›)

theorem Found.bind {α : Type} {a : Except Fault α} {f : α → Except Fault Download} (ha : NoPartial a)
    (hf : ∀ x, Found url (f x)) : Found url (a >>= f) := by
  cases a with
  | error e => exact .error (ha e rfl)
  | ok x => exact hf x

theorem Found.ite {p : Prop} [Decidable p] {a b : Except Fault Download} (ha : Found url a)
    (hb : Found url b) : Found url (if p then a else b) := by
  split
  · exact ha
  · exact hb

theorem found_ofReply (limit : Value) (url : String) (r : HttpReply) : Found url (ofReply limit url r) := by
  unfold ofReply
  dsimp only
  refine .ite (.error rfl) (.bind (noPartial_checkLength url limit r) fun _ => ?_)
  exact .ite (.error rfl) (.bind (noPartial_gather url limit _ _) fun content => .ok rfl)

/-! ## Downloading -/

variable {σ τ : Type} {c : Clipper σ τ}

/-- The image of a URL, or a fault that is the error of a page written in part only if something
outside fails with one. -/
def Fetched (c : Clipper σ τ) (url : String) (o : Except Fault Download) : Prop :=
  Spares c o ∧ ∀ d, o = .ok d → d.url = url

theorem Found.fetched {o : Except Fault Download} (h : Found url o) : Fetched c url o := ⟨h.1.spares, h.2⟩

/-- A response that does not fail with that error, nothing outside doing so. -/
def Sound (c : Clipper σ τ) (r : Response HttpReply) : Prop :=
  c.outside.Foreign → ∀ e, r = .failure (.clip e) → (Fault.clip e).isPartial = false

theorem fetched_ofFailure {f : Failure} (h : Sound c (.failure f)) (timeout : Value) :
    Fetched c url (.error (ofFailure timeout url f)) := by
  refine ⟨fun ho => .error ?_, by rintro _ ⟨⟩⟩
  cases f with
  | clip e => exact h ho e rfl
  | _ => rfl

variable [Clock τ] {P : Move → Prop}

theorem fetch_does (hP : ∀ u a, P (.fetched u a)) (url : String) :
    Does c P (fun r => ∃ a, r = .ok a ∧ Sound c a) (fetch url) := by
  refine (fetch_ensures url).mono ?_
  rintro _ _ ⟨w, rfl, rfl⟩
  exact ⟨by simpa using hP url _, _, rfl, fun ho => ho.fetch url w⟩

theorem fetchFrom_does (hP : ∀ u a, P (.fetched u a)) (n : Nat) (url : String) :
    Does c P (fun r => ∃ a, r = .ok a ∧ Sound c a) (fetchFrom n url) := by
  have hbroken (text : String) : Sound c (.failure (.broken text)) := by rintro - e ⟨⟩
  induction n generalizing url with
  | zero =>
    rw [fetchFrom]
    refine .bind_sure (fetch_does hP url) fun a ha => ?_
    split
    · split
      · exact .pure ⟨_, rfl, ha⟩
      · exact .pure ⟨_, rfl, hbroken _⟩
    · exact .pure ⟨_, rfl, ha⟩
  | succ n ih =>
    rw [fetchFrom]
    refine .bind_sure (fetch_does hP url) fun a ha => ?_
    split
    · split
      · exact .pure ⟨_, rfl, ha⟩
      · dsimp only
        split
        · exact ih _
        · exact .pure ⟨_, rfl, hbroken _⟩
    · exact .pure ⟨_, rfl, ha⟩

/-- A download only fetches. -/
theorem run_does (hP : ∀ u a, P (.fetched u a)) (url : String) : Does c P (Fetched c url) (run url) := by
  unfold run
  refine .bind_done .read ?_
  split
  · exact .orFault (found_ofData _ _).fetched
  · split
    · exact .throw (Found.error rfl).fetched
    · refine .bind_sure (fetchFrom_does hP _ url) fun a ha => ?_
      cases a with
      | answer r => exact .orFault (found_ofReply _ _ r).fetched
      | failure f => exact .throw (fetched_ofFailure ha _)
      | silence => exact .throw (Found.error rfl).fetched

end Download

namespace Image

variable {σ τ : Type} {c : Clipper σ τ}

/-! ## Batches of downloads -/

/-- Everything downloaded is the image of the URL it is kept under. -/
def Downloads.Keyed (found : Downloads) : Prop := ∀ url image, found.images.lookup url = some image → image.url = url

/-- Downloads that keep what they find under its URL, or end without the error of a page
written in part. -/
def Collected (c : Clipper σ τ) (r : Except Fault Downloads) : Prop := Spares c r ∧ ∀ found, r = .ok found → found.Keyed

theorem Collected.ok {found : Downloads} (h : found.Keyed) : Collected c (.ok found) := by
  refine ⟨(NoPartial.ok found).spares, ?_⟩
  rintro _ ⟨⟩
  exact h

theorem Collected.error {e : Fault} (h : Spares c (.error e : Except Fault Download)) : Collected c (.error e) := by
  refine ⟨h.cast, ?_⟩
  rintro _ ⟨⟩

theorem fault?_eq_some {o : Outcome} {e : Fault} (h : fault? o = some e) : o = .error e := by
  unfold fault? at h
  split at h
  · cases h
    rfl
  · cases h

/-- The fault of a batch is that of one of its downloads. -/
theorem exists_fault? {outcomes : List (String × Outcome)} {e : Fault} (h : batchFault? outcomes = some e) :
    ∃ p ∈ outcomes, fault? p.2 = some e := by
  refine List.mem_filterMap.1 ?_
  rcases Option.or_eq_some_iff.1 h with h | ⟨-, h⟩
  · exact List.mem_of_find?_eq_some h
  · exact List.mem_of_head? h

theorem of_batchFault? {outcomes : List (String × Outcome)} {e : Fault} (h : batchFault? outcomes = some e) :
    ∃ p ∈ outcomes, p.2 = .error e := by
  obtain ⟨p, hp, he⟩ := exists_fault? h
  exact ⟨p, hp, fault?_eq_some he⟩

variable [Clock τ]

theorem note_does {url : String} {state : ImageState} (h : state ≠ .uploaded) :
    Does c Move.OfDownload (fun r => r = .ok ()) (note url state) :=
  .of_move (Ensures.note url state) h rfl

theorem tell_does (n : Notice) : Does c Move.OfDownload (fun r => r = .ok ()) (tell n) :=
  .of_move (Ensures.tell n) trivial rfl

theorem startAll_does (urls : List String) :
    Does c Move.OfDownload (fun r => ∃ outcomes, r = .ok outcomes ∧ ∀ p ∈ outcomes, Download.Fetched c p.1 p.2)
      (startAll urls) := by
  induction urls with
  | nil => exact .pure ⟨[], rfl, by simp⟩
  | cons url rest ih =>
    rw [startAll]
    refine .bind_done (note_does (by decide)) ?_
    refine .bind_sure (.attempt (Download.run_does (fun _ _ => trivial) url)) fun o ho => ?_
    refine .bind_sure ih fun outcomes hrest => ?_
    exact .pure ⟨_, rfl, List.forall_mem_cons.2 ⟨ho, hrest⟩⟩

theorem record_does {found : Downloads} (hf : found.Keyed) {url : String} {o : Outcome}
    (ho : Download.Fetched c url o) :
    Does c Move.OfDownload (fun r => ∃ found', r = .ok found' ∧ found'.Keyed) (record found url o) := by
  unfold record
  cases o with
  | ok image =>
    refine .bind_done (note_does (by decide)) (.pure ⟨_, rfl, ?_⟩)
    intro other image' h
    by_cases hu : other = url
    · subst hu
      rw [lookup_putKey_self] at h
      cases h
      exact ho.2 image rfl
    · rw [lookup_putKey_of_ne hu] at h
      exact hf other image' h
  | error e =>
    cases failure? (.error e) with
    | none => exact .pure ⟨_, rfl, hf⟩
    | some message =>
      refine .bind_done (note_does (by decide)) ?_
      exact .bind_done (tell_does _) (.pure ⟨_, rfl, hf⟩)

theorem recordAll_does {found : Downloads} (hf : found.Keyed) {outcomes : List (String × Outcome)}
    (ho : ∀ p ∈ outcomes, Download.Fetched c p.1 p.2) :
    Does c Move.OfDownload (fun r => ∃ found', r = .ok found' ∧ found'.Keyed) (recordAll found outcomes) := by
  induction outcomes generalizing found with
  | nil => exact .pure ⟨_, rfl, hf⟩
  | cons p rest ih =>
    obtain ⟨hp, hrest⟩ := List.forall_mem_cons.1 ho
    rw [recordAll]
    exact .bind_sure (record_does hf hp) fun found hf => ih hf hrest

theorem downloadBatch_does {found : Downloads} (hf : found.Keyed) (urls : List String) :
    Does c Move.OfDownload (Collected c) (downloadBatch found urls) := by
  unfold downloadBatch
  refine .bind_sure (startAll_does urls) fun outcomes hout => .bind_done .read ?_
  have hfin : ∀ p ∈ (c.outside.finish urls).filterMap (outcomes[·]?), Download.Fetched c p.1 p.2 := by
    intro p hp
    obtain ⟨i, -, hi⟩ := List.mem_filterMap.1 hp
    exact hout p (List.mem_of_getElem? hi)
  refine .bind_sure (recordAll_does hf hfin) fun found hf => ?_
  split
  next e he =>
    obtain ⟨p, hp, hpe⟩ := of_batchFault? he
    exact .throw (.error (hpe ▸ (hfin p hp).1))
  next => exact .pure (.ok hf)

theorem downloadBatches_does {found : Downloads} (hf : found.Keyed)
    (batches : List (List String)) : Does c Move.OfDownload (Collected c) (downloadBatches found batches) := by
  induction batches generalizing found with
  | nil => exact .pure (.ok hf)
  | cons batch rest ih =>
    rw [downloadBatches]
    exact .bind (downloadBatch_does hf batch) (fun e h => h) fun found h => ih (h.2 found rfl)

theorem noPartial_batchSize (concurrency : Value) : NoPartial (batchSize concurrency) := by
  unfold batchSize
  repeat' split
  all_goals first | exact .ok _ | exact .error rfl

theorem downloadAll_does (urls : List String) :
    Does c Move.OfDownload (Collected c) (downloadAll urls) := by
  unfold downloadAll
  refine .bind_done .read ?_
  refine .bind (.orFault (noPartial_batchSize _)) (fun e h => .error h.cast.spares) fun size _ => ?_
  refine .bind (downloadBatches_does (by simp [Downloads.Keyed]) _) (fun e h => h) fun found h => ?_
  exact .bind_done (tell_does _) (.pure h)

/-! ## Distinct URLs -/

theorem distinct_concat (urls : List String) (url : String) :
    distinct (urls ++ [url]) =
      if url.isEmpty || (distinct urls).contains url then distinct urls else distinct urls ++ [url] := by
  unfold distinct
  rw [List.foldl_append]
  rfl

/-- The distinct URLs are the first occurrences of those that are not empty. -/
theorem distinct_eq (urls : List String) : distinct urls = (urls.filter (!·.isEmpty)).eraseDups := by
  induction urls using List.reverseRecOn with
  | nil => rfl
  | append_singleton urls url ih =>
    rw [distinct_concat, ih, List.filter_append, List.eraseDups_append]
    cases hu : url.isEmpty with
    | true => simp [hu]
    | false =>
      by_cases hm : url ∈ urls.filter (!·.isEmpty)
      · simp [hu, hm, List.cons_removeAll]
      · simp [hu, hm, List.cons_removeAll, List.eraseDups_cons]

theorem mem_distinct {urls : List String} {url : String} : url ∈ distinct urls ↔ url ∈ urls ∧ url ≠ "" := by
  simp [distinct_eq]

theorem nodup_distinct (urls : List String) : (distinct urls).Nodup := by
  induction urls using List.reverseRecOn with
  | nil => exact List.nodup_nil
  | append_singleton urls url ih =>
    rw [distinct_concat]
    split
    next => exact ih
    next h =>
      simp only [Bool.or_eq_true, List.contains_iff_mem, not_or] at h
      refine List.nodup_append.2 ⟨ih, by simp, ?_⟩
      rintro a ha _ hb rfl
      rw [List.mem_singleton] at hb
      exact h.2 (hb ▸ ha)

/-! ## Uploads -/

theorem uploadError_isPartial (url : String) (e : ClipError) : (Fault.clip (uploadError url e)).isPartial = false := by
  obtain ⟨kind, message, status⟩ := e
  cases kind <;> rfl

/-- An image is noted as uploaded exactly when its upload has an id. -/
theorem upload_ensures (image : Download) :
    Ensures c (fun ms r => (∀ m ∈ ms, m.Quiet) ∧ NoPartial r ∧
      ∀ url, .noted url .uploaded ∈ ms ↔ url = image.url ∧ ∃ id, r = .ok id) (upload image) := by
  unfold upload
  refine .bind_move (.note _ _) ?_
  refine .bind_attempt (Act.upload_does _ _ _ _) ?_
  rintro ms o ⟨hms, -⟩
  have hquiet : ∀ m ∈ ms, m.Quiet := fun m hm => (hms m hm).quiet
  have hnoted : ∀ url state, .noted url state ∉ ms := fun _ _ hm => hms _ hm
  cases o with
  | ok id =>
    refine .bind_move (.note _ _) ?_
    exact .pure ⟨by simpa [or_imp, forall_and] using hquiet, .ok id, by simp [hnoted]⟩
  | error e =>
    cases e with
    | clip e =>
      refine .bind_move (.note _ _) ?_
      refine .throw ⟨?_, .error (uploadError_isPartial _ e), by simp [hnoted]⟩
      simpa [or_imp, forall_and] using hquiet
    | _ => exact .throw ⟨by simpa using hquiet, .error rfl, by simp [hnoted]⟩

/-! ## Resolution -/

/-- Assets of some URLs that tell of each one noted as uploaded by what id it is known. -/
def Tells (urls : List String) (ms : List Move) (assets : Assets) : Prop :=
  assets.map (·.1) = urls ∧
    ∀ url, .noted url .uploaded ∈ ms → ∃ id, assets.lookup url = some (uploadedAt url id)

theorem resolve_ensures {found : Downloads} (hf : found.Keyed) (url : String) :
    Ensures c (fun ms r => Harmless c ms r ∧ ∀ asset, r = .ok asset →
      ∀ u, .noted u .uploaded ∈ ms → u = url ∧ ∃ id, asset = uploadedAt url id) (resolve found url) := by
  unfold resolve
  cases hi : found.images.lookup url with
  | none => exact .pure ⟨⟨by simp, (NoPartial.ok _).spares⟩, by simp⟩
  | some image =>
    refine .bind_attempt (upload_ensures image) ?_
    rintro ms o ⟨hq, hn, hu⟩
    rw [hf url image hi] at hu
    cases o with
    | ok id =>
      refine .pure ⟨⟨by simpa using hq, (NoPartial.ok _).spares⟩, ?_⟩
      rintro _ ⟨⟩ u hm
      exact ⟨((hu u).1 (by simpa using hm)).1, id, rfl⟩
    | error e =>
      have hnoted : ∀ u, .noted u .uploaded ∉ ms := fun u hm => by simpa using (hu u).1 hm
      cases e with
      | clip e =>
        dsimp only
        split
        · refine .bind_move (.tell _) ?_
          exact .pure ⟨⟨by simpa [or_imp, forall_and] using hq, (NoPartial.ok _).spares⟩, by simp [hnoted]⟩
        · exact .throw ⟨⟨by simpa using hq, hn.cast.spares⟩, by rintro _ ⟨⟩⟩
      | _ => exact .throw ⟨⟨by simpa using hq, (NoPartial.error rfl).spares⟩, by rintro _ ⟨⟩⟩

/-- The assets of distinct URLs tell of all that was uploaded for them. -/
theorem resolveEach_ensures {found : Downloads} (hf : found.Keyed) {urls : List String} (hd : urls.Nodup) :
    Ensures c (fun ms r => Harmless c ms r ∧ ∀ assets, r = .ok assets → Tells urls ms assets)
      (resolveEach found urls) := by
  induction urls with
  | nil =>
    refine .pure ⟨⟨by simp, (NoPartial.ok _).spares⟩, ?_⟩
    rintro _ ⟨⟩
    exact ⟨rfl, by simp⟩
  | cons url rest ih =>
    obtain ⟨hurl, hrest⟩ := List.nodup_cons.1 hd
    rw [resolveEach]
    refine .bind (resolve_ensures hf url) (fun ms e ⟨⟨hq, hn⟩, _⟩ => ⟨⟨hq, hn.cast⟩, by rintro _ ⟨⟩⟩) ?_
    rintro ms asset ⟨⟨hq, -⟩, hasset⟩
    refine .bind_move (.note _ _) ?_
    refine .bind (ih hrest) (fun ns e ⟨h, _⟩ => ⟨.append hq (.cons trivial h), by rintro _ ⟨⟩⟩) ?_
    rintro ns assets ⟨⟨hq', -⟩, hassets⟩
    obtain ⟨hkeys, htell⟩ := hassets assets rfl
    refine .pure ⟨.append hq (.cons trivial (.append hq' ⟨by simp, (NoPartial.ok _).spares⟩)), ?_⟩
    rintro _ ⟨⟩
    refine ⟨by rw [List.map_cons, hkeys], fun u hu => ?_⟩
    simp only [List.append_nil, List.mem_append, List.mem_cons, Move.noted.injEq,
      reduceCtorEq, and_false, false_or] at hu
    rcases hu with hu | hu
    · obtain ⟨rfl, id, rfl⟩ := hasset asset rfl u hu
      exact ⟨id, List.lookup_cons_self⟩
    · -- a URL uploaded later is another one, for the URLs are distinct
      obtain ⟨id, hid⟩ := htell u hu
      have hmem : u ∈ rest := hkeys ▸ List.mem_map_of_mem (mem_of_lookup hid)
      have hne : (u == url) = false := beq_eq_false_iff_ne.2 fun h => hurl (h ▸ hmem)
      exact ⟨id, by rw [List.lookup_cons, hne, hid]⟩

theorem leaveEach_does (urls : List String) :
    Does c Move.OfDownload (fun r => ∃ assets, r = .ok assets ∧ assets.map (·.1) = urls)
      (leaveEach urls : Act σ τ Assets) := by
  induction urls with
  | nil => exact .pure ⟨[], rfl, rfl⟩
  | cons url rest ih =>
    rw [leaveEach]
    refine .bind_done (note_does (by decide)) ?_
    refine .bind_sure ih fun assets hkeys => ?_
    exact .pure ⟨_, rfl, by rw [List.map_cons, hkeys]⟩

theorem discoverAll_does (urls : List String) :
    Does c Move.OfDownload (fun r => r = .ok ()) (discoverAll urls : Act σ τ Unit) := by
  induction urls with
  | nil => exact .pure rfl
  | cons url rest ih =>
    rw [discoverAll]
    exact .bind_done (note_does (by decide)) ih

/-- What is told of uploads does not change when images have only been downloaded before. -/
theorem Tells.prepend {urls : List String} {ms ns : List Move} {assets : Assets}
    (hm : ∀ m ∈ ms, m.OfDownload) (h : Tells urls ns assets) : Tells urls (ms ++ ns) assets := by
  refine ⟨h.1, fun url hu => ?_⟩
  rcases List.mem_append.1 hu with hu | hu
  · exact absurd rfl (hm _ hu)
  · exact h.2 url hu

/-- Finding out where images live writes to no page, and the assets found have every URL that
is not empty and tell of all that was uploaded. -/
theorem resolveAll_ensures (urls : List String) (uploadEnabled : Bool) :
    Ensures c (fun ms r => Harmless c ms r ∧ ∀ assets, r = .ok assets → Tells (distinct urls) ms assets)
      (resolveAll urls uploadEnabled) := by
  have hquiet {ms : List Move} (h : ∀ m ∈ ms, m.OfDownload) : ∀ m ∈ ms, m.Quiet := fun m hm => (h m hm).quiet
  unfold resolveAll
  dsimp only
  refine .bind (discoverAll_does _) ?_ ?_
  · rintro _ _ ⟨-, ⟨⟩⟩
  rintro ms _ ⟨hms, -⟩
  split
  · refine .bind (downloadAll_does _)
      (fun ns e ⟨hns, h⟩ => ⟨.append (hquiet hms) ⟨hquiet hns, h.1.cast⟩, by rintro _ ⟨⟩⟩) ?_
    rintro ns found ⟨hns, hfound⟩
    refine .bind (resolveEach_ensures (hfound.2 found rfl) (nodup_distinct urls))
      (fun ks e ⟨h, _⟩ => ⟨.append (hquiet hms) (.append (hquiet hns) h), by rintro _ ⟨⟩⟩) ?_
    rintro ks assets ⟨⟨hq, -⟩, hassets⟩
    refine .bind_move (.tell _) ?_
    refine .pure ⟨.append (hquiet hms) (.append (hquiet hns) (.append hq ⟨by simp, (NoPartial.ok _).spares⟩)), ?_⟩
    rintro _ ⟨⟩
    obtain ⟨hkeys, htell⟩ := hassets assets rfl
    exact .prepend hms (.prepend hns ⟨hkeys, fun url hu => htell url (by simpa using hu)⟩)
  · refine .mono (leaveEach_does _) ?_
    rintro ns _ ⟨hns, assets, rfl, hkeys⟩
    refine ⟨.append (hquiet hms) ⟨hquiet hns, (NoPartial.ok _).spares⟩, ?_⟩
    rintro _ ⟨⟩
    exact .prepend hms ⟨hkeys, fun url hu => absurd rfl (hns _ hu)⟩

end Image

end WebClip
