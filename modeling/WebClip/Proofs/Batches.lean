import WebClip.Proofs.Chunks
import WebClip.Proofs.Courses
/-!
# Batches of downloads

The downloads of a batch are started in order and end in any order, and the next batch waits for
all of them. What is known afterwards is what came of each download, under its own URL.
-/

namespace WebClip

open Act

variable {σ τ : Type}

/-- The downloads of a batch all end, each once, in whatever order. -/
def Outside.Finishes (o : Outside σ τ) : Prop := ∀ urls, (o.finish urls).Perm (List.range urls.length)

namespace Image

/-! ## What is known of downloads -/

/-- Everything known of downloads is what came of these. -/
structure Downloads.Knows (found : Downloads) (outcomes : List (String × Outcome)) : Prop where
  known : ∀ p ∈ outcomes, found.images.lookup p.1 = p.2.toOption ∧ found.errors.lookup p.1 = failure? p.2
  unknown : ∀ url, url ∉ outcomes.map (·.1) → found.images.lookup url = none ∧ found.errors.lookup url = none

namespace Downloads.Knows

variable {found found' : Downloads} {outcomes others : List (String × Outcome)} {url : String} {o : Outcome}

theorem nil : Downloads.Knows {} [] := ⟨by simp, fun _ _ => ⟨rfl, rfl⟩⟩

/-- The order in which downloads have ended does not matter. -/
theorem perm (h : found.Knows outcomes) (hp : outcomes.Perm others) : found.Knows others := by
  refine ⟨fun p hmem => h.known p (hp.mem_iff.2 hmem), fun url hurl => h.unknown url fun hmem => hurl ?_⟩
  exact (hp.map _).mem_iff.1 hmem

/-- One more outcome, of a URL that nothing is known of. -/
theorem concat (h : found.Knows outcomes) (hnew : url ∉ outcomes.map (·.1))
    (hself : found'.images.lookup url = o.toOption ∧ found'.errors.lookup url = failure? o)
    (hother : ∀ other ≠ url, found'.images.lookup other = found.images.lookup other ∧
      found'.errors.lookup other = found.errors.lookup other) : found'.Knows (outcomes ++ [(url, o)]) := by
  constructor
  · intro p hp
    rcases List.mem_append.1 hp with hp | hp
    · have hne : p.1 ≠ url := fun he => hnew (he ▸ List.mem_map_of_mem hp)
      rw [(hother _ hne).1, (hother _ hne).2]
      exact h.known p hp
    · rw [List.mem_singleton.1 hp]
      exact hself
  · intro other hmem
    rw [List.map_append, List.mem_append, not_or] at hmem
    have hne : other ≠ url := fun he => hmem.2 (by simp [he])
    rw [(hother _ hne).1, (hother _ hne).2]
    exact h.unknown other hmem.1

end Downloads.Knows

/-! ## The course of a batch -/

/-- The deeds by which a download starts, which include the download. -/
def started (p : String × Outcome) : List Deed := [.noted p.1 .downloading, .downloaded p.1 p.2]

/-- What is noted when a download ends, unless it ends in some other way than downloads do. -/
def ended? (p : String × Outcome) : Option Deed :=
  match p.2, failure? p.2 with
  | .ok _, _ => some (.noted p.1 .downloaded)
  | .error _, some _ => some (.noted p.1 .downloadFailed)
  | .error _, none => none

/-- The deeds of batches of downloads that came to these outcomes. -/
inductive Batched : List (String × Outcome) → List Deed → Prop
  | nil : Batched [] []
  | cons {outcomes finished rest : List (String × Outcome)} {ds : List Deed} : finished.Perm outcomes →
    Batched rest ds → Batched (outcomes ++ rest) (outcomes.flatMap started ++ finished.filterMap ended? ++ ds)

namespace Batched

variable {outcomes : List (String × Outcome)} {ds : List Deed}

theorem isNote_of_ended? {p : String × Outcome} {d : Deed} (h : ended? p = some d) :
    ∃ state, d = .noted p.1 state := by
  unfold ended? at h
  split at h <;> cases h
  · exact ⟨_, rfl⟩
  · exact ⟨_, rfl⟩

/-- Each download is made once, in the order of the outcomes. -/
theorem downloads (h : Batched outcomes ds) : ds.filterMap Deed.download? = outcomes := by
  have hstarted (ps : List (String × Outcome)) : (ps.flatMap started).filterMap Deed.download? = ps := by
    induction ps with
    | nil => rfl
    | cons p rest ih => rw [List.flatMap_cons, List.filterMap_append, ih]; rfl
  have hended (ps : List (String × Outcome)) : (ps.filterMap ended?).filterMap Deed.download? = [] := by
    rw [List.filterMap_filterMap, List.filterMap_eq_nil_iff]
    intro p _
    cases he : ended? p with
    | none => rfl
    | some d =>
      obtain ⟨state, rfl⟩ := isNote_of_ended? he
      rfl
  induction h with
  | nil => rfl
  | cons _ _ ih => rw [List.filterMap_append, List.filterMap_append, hstarted, hended, ih, List.append_nil]

/-- Every deed is one of these downloads, or a note of the image of one. -/
theorem mem (h : Batched outcomes ds) {d : Deed} (hd : d ∈ ds) :
    ∃ p ∈ outcomes, d = .downloaded p.1 p.2 ∨ ∃ state, d = .noted p.1 state := by
  induction h with
  | nil => cases hd
  | cons hperm _ ih =>
    rcases List.mem_append.1 hd with hd | hd
    · rcases List.mem_append.1 hd with hd | hd
      · obtain ⟨p, hp, hd⟩ := List.mem_flatMap.1 hd
        refine ⟨p, List.mem_append_left _ hp, ?_⟩
        rcases List.mem_cons.1 hd with rfl | hd
        · exact .inr ⟨_, rfl⟩
        · exact .inl (List.mem_singleton.1 hd)
      · obtain ⟨p, hp, he⟩ := List.mem_filterMap.1 hd
        exact ⟨p, List.mem_append_left _ (hperm.mem_iff.1 hp), .inr (isNote_of_ended? he)⟩
    · obtain ⟨p, hp, hd⟩ := ih hd
      exact ⟨p, List.mem_append_right _ hp, hd⟩

end Batched

/-! ## What is noted of batches -/

/-- The state in which a download leaves its image, unless it ends in some other way than downloads do. -/
def endState? (o : Outcome) : Option ImageState :=
  match o, failure? o with
  | .ok _, _ => some .downloaded
  | .error _, some _ => some .downloadFailed
  | .error _, none => none

theorem ended?_eq (p : String × Outcome) : ended? p = (endState? p.2).map (.noted p.1 ·) := by
  obtain ⟨url, o⟩ := p
  cases o with
  | ok image => rfl
  | error f => cases hf : failure? (.error f) <;> simp [ended?, endState?, hf]

theorem endState?_of_fault? {o : Outcome} (h : fault? o = none) :
    endState? o = some .downloaded ∨ endState? o = some .downloadFailed := by
  cases o with
  | ok image => exact .inl rfl
  | error f =>
    cases hf : failure? (.error f) with
    | none => simp [fault?, hf] at h
    | some message => exact .inr (by simp [endState?, hf])

theorem endState?_of_error {f : Fault} (h : fault? (.error f) = none) : endState? (.error f) = some .downloadFailed := by
  rcases endState?_of_fault? h with hend | hend
  · cases hf : failure? (.error f) <;> simp [endState?, hf] at hend
  · exact hend

/-- A note of an image whose download has ended. -/
def IsEnd (p : String × ImageState) : Prop := p.2 = .downloaded ∨ p.2 = .downloadFailed

/-- The notes with which the downloads of a batch are started. -/
def starts (batch : List String) : List (String × ImageState) := batch.map (·, .downloading)

/-- What is noted while batches are downloaded: a batch is started as a whole and waited for. Unless all
batches have been downloaded, the last one started may be broken off. -/
inductive Rounds : List (List String) → Bool → List (String × ImageState) → Prop
  | nil : Rounds [] true []
  | broken {batch : List String} {rest : List (List String)} {ends : List (String × ImageState)} :
    (∀ p ∈ ends, IsEnd p) → Rounds (batch :: rest) false (starts batch ++ ends)
  | cons {batch : List String} {rest : List (List String)} {all : Bool} {ends notes : List (String × ImageState)} :
    (∀ p ∈ ends, IsEnd p) → (ends.map (·.1)).Perm batch → Rounds rest all notes →
    Rounds (batch :: rest) all (starts batch ++ ends ++ notes)

theorem notes_started (outcomes : List (String × Outcome)) :
    (outcomes.flatMap started).filterMap Deed.note? = starts (outcomes.map (·.1)) := by
  induction outcomes with
  | nil => rfl
  | cons p rest ih => rw [List.flatMap_cons, List.filterMap_append, ih]; rfl

theorem notes_ended (finished : List (String × Outcome)) :
    (finished.filterMap ended?).filterMap Deed.note? =
      finished.filterMap fun p => (endState? p.2).map (p.1, ·) := by
  rw [List.filterMap_filterMap]
  congr 1
  funext p
  rw [ended?_eq]
  cases endState? p.2 <;> rfl

theorem isEnd_of_endState? {o : Outcome} {state : ImageState} (h : endState? o = some state) (url : String) :
    IsEnd (url, state) := by
  unfold endState? at h
  split at h <;> cases h
  · exact .inl rfl
  · exact .inr rfl

/-- Downloads none of which ends in some other way than downloads do are all noted to have ended. -/
theorem urls_ended {finished : List (String × Outcome)} (h : ∀ p ∈ finished, fault? p.2 = none) :
    (finished.filterMap fun p => (endState? p.2).map (p.1, ·)).map (·.1) = finished.map (·.1) := by
  induction finished with
  | nil => rfl
  | cons p rest ih =>
    obtain ⟨hp, hrest⟩ := List.forall_mem_cons.1 h
    obtain ⟨state, hstate⟩ : ∃ state, endState? p.2 = some state :=
      (endState?_of_fault? hp).elim (fun h => ⟨_, h⟩) fun h => ⟨_, h⟩
    rw [List.filterMap_cons_some (b := (p.1, state)) (by rw [hstate]; rfl), List.map_cons, List.map_cons, ih hrest]

/-! ## Downloading in batches -/

/-- Every image found has the URL that it was looked for at. -/
def Own (outcomes : List (String × Outcome)) : Prop := ∀ p ∈ outcomes, ∀ image, p.2 = .ok image → image.url = p.1

/-- Nothing in a batch ended in some other way than downloads do. -/
theorem fault?_of_batchFault? {outcomes : List (String × Outcome)} (h : batchFault? outcomes = none) :
    ∀ p ∈ outcomes, fault? p.2 = none := by
  have hfaults : outcomes.filterMap (fun o => fault? o.2) = [] := List.head?_eq_none_iff.1 (Option.or_eq_none_iff.1 h).2
  exact List.filterMap_eq_nil_iff.1 hfaults

/-- All places of a list, in some order, are the list in that order. -/
theorem perm_filterMap_getElem? {α : Type} {xs : List α} {places : List Nat}
    (h : places.Perm (List.range xs.length)) : (places.filterMap (xs[·]?)).Perm xs := by
  refine (h.filterMap _).trans (List.Perm.of_eq ?_)
  clear h
  induction xs with
  | nil => rfl
  | cons x rest ih =>
    rw [List.length_cons, List.range_succ_eq_map, List.filterMap_cons_some List.getElem?_cons_zero, List.filterMap_map]
    exact congrArg (x :: ·) ih

/-- What downloads came to, of the first of these URLs on. When they return it is of all of them:
nothing ended in some other way than downloads do, and it is known beside what was known before. -/
structure Gathers (known : List (String × Outcome)) (urls : List String) (outcomes : List (String × Outcome))
    (r : Except Fault Downloads) : Prop where
  initial : outcomes.map (·.1) <+: urls
  own : Own outcomes
  all : ∀ found, r = .ok found →
    outcomes.map (·.1) = urls ∧ found.Knows (known ++ outcomes) ∧ ∀ p ∈ outcomes, fault? p.2 = none

variable [Clock τ] {c : Clipper σ τ}

theorem startAll_follows (urls : List String) :
    Follows c (fun ds r => ∃ outcomes, r = .ok outcomes ∧ outcomes.map (·.1) = urls ∧ Own outcomes ∧
      ds = outcomes.flatMap started) (startAll urls) := by
  induction urls with
  | nil => exact .pure ⟨[], rfl, rfl, by simp [Own], rfl⟩
  | cons url rest ih =>
    rw [startAll]
    refine .bind_note (.bind_attempt (.download url) ?_)
    rintro _ o ⟨rfl, hown⟩
    refine .bind ih ?_ ?_
    · rintro _ _ ⟨_, ⟨⟩, _⟩
    · rintro _ outcomes ⟨_, ⟨⟩, hurls, howns, rfl⟩
      exact .pure ⟨(url, o) :: outcomes, rfl, by rw [List.map_cons, hurls], List.forall_mem_cons.2 ⟨hown, howns⟩,
        by simp [started]⟩

theorem record_follows {found : Downloads} {outcomes : List (String × Outcome)} (h : found.Knows outcomes)
    {url : String} (hnew : url ∉ outcomes.map (·.1)) (o : Outcome) :
    Follows c (fun ds r => ∃ found', r = .ok found' ∧ found'.Knows (outcomes ++ [(url, o)]) ∧
      ds = (ended? (url, o)).toList) (record found url o) := by
  obtain ⟨himages, herrors⟩ := h.unknown url hnew
  unfold record
  cases o with
  | ok image =>
    refine .bind_note (.pure ⟨_, rfl, h.concat hnew ⟨lookup_putKey_self _ _ _, herrors⟩ ?_, rfl⟩)
    exact fun other hne => ⟨lookup_putKey_of_ne hne _ _, rfl⟩
  | error e =>
    cases hf : failure? (.error e) with
    | none =>
      refine .pure ⟨_, rfl, h.concat hnew ⟨himages, herrors.trans hf.symm⟩ fun _ _ => ⟨rfl, rfl⟩, ?_⟩
      simp [ended?, hf]
    | some message =>
      refine .bind_note (.bind_tell (.pure ⟨_, rfl, h.concat hnew ⟨himages, ?_⟩ ?_, ?_⟩))
      · rw [hf, lookup_putKey_self]
      · exact fun other hne => ⟨rfl, lookup_putKey_of_ne hne _ _⟩
      · simp [ended?, hf]

theorem recordAll_follows {found : Downloads} {outcomes : List (String × Outcome)} (h : found.Knows outcomes)
    {finished : List (String × Outcome)} (hnew : ((outcomes ++ finished).map (·.1)).Nodup) :
    Follows c (fun ds r => ∃ found', r = .ok found' ∧ found'.Knows (outcomes ++ finished) ∧
      ds = finished.filterMap ended?) (recordAll found finished) := by
  induction finished generalizing found outcomes with
  | nil => exact .pure ⟨found, rfl, by rwa [List.append_nil], rfl⟩
  | cons p rest ih =>
    rw [recordAll]
    have hfresh : p.1 ∉ outcomes.map (·.1) := by
      rw [List.map_append, List.map_cons, List.nodup_append] at hnew
      exact fun hmem => hnew.2.2 _ hmem _ List.mem_cons_self rfl
    refine .bind (record_follows h hfresh p.2) ?_ ?_
    · rintro _ _ ⟨_, ⟨⟩, _⟩
    · rintro _ _ ⟨found, ⟨⟩, hknows, rfl⟩
      refine (ih hknows (by rwa [List.append_assoc])).mono ?_
      rintro _ _ ⟨found', rfl, hknows', rfl⟩
      refine ⟨found', rfl, by simpa using hknows', ?_⟩
      cases he : ended? p <;> simp [he]

theorem downloadBatch_follows (hfin : c.outside.Finishes) {found : Downloads} {known : List (String × Outcome)}
    (h : found.Knows known) {urls : List String} (hnew : (known.map (·.1) ++ urls).Nodup) :
    Follows c (fun ds r => ∃ outcomes finished : List (String × Outcome), finished.Perm outcomes ∧
      ds = outcomes.flatMap started ++ finished.filterMap ended? ∧ outcomes.map (·.1) = urls ∧
      Gathers known urls outcomes r) (downloadBatch found urls) := by
  unfold downloadBatch
  refine .bind (startAll_follows urls) ?_ ?_
  · rintro _ _ ⟨_, ⟨⟩, _⟩
  rintro _ outcomes ⟨_, ⟨⟩, rfl, hown, rfl⟩
  refine .bind_read ?_
  have hperm := hfin (outcomes.map (·.1))
  rw [List.length_map] at hperm
  have hended := perm_filterMap_getElem? hperm
  have hnodup : ((known ++ (c.outside.finish (outcomes.map (·.1))).filterMap (outcomes[·]?)).map (·.1)).Nodup := by
    rw [List.map_append]
    exact ((hended.map _).append_left _).nodup_iff.2 hnew
  refine .bind (recordAll_follows h hnodup) ?_ ?_
  · rintro _ _ ⟨_, ⟨⟩, _⟩
  rintro _ found ⟨_, ⟨⟩, hknows, rfl⟩
  split
  · refine .throw ⟨outcomes, _, hended, by rw [List.append_nil], rfl, List.prefix_rfl, hown, ?_⟩
    rintro _ ⟨⟩
  next hfault =>
    refine .pure ⟨outcomes, _, hended, by rw [List.append_nil], rfl, List.prefix_rfl, hown, ?_⟩
    rintro _ ⟨⟩
    refine ⟨rfl, hknows.perm (hended.append_left _), fun p hp => ?_⟩
    exact fault?_of_batchFault? hfault p (hended.mem_iff.2 hp)

/-- Batches are downloaded one after another, and a batch in which something breaks is the last one started. -/
theorem downloadBatches_rounds (hfin : c.outside.Finishes) {found : Downloads} {known : List (String × Outcome)}
    (h : found.Knows known) {batches : List (List String)} (hnew : (known.map (·.1) ++ batches.flatten).Nodup) :
    Follows c (fun ds r => (∃ outcomes, Batched outcomes ds ∧ Gathers known batches.flatten outcomes r) ∧
      Rounds batches r.isOk (ds.filterMap Deed.note?)) (downloadBatches found batches) := by
  induction batches generalizing found known with
  | nil =>
    refine .pure ⟨⟨[], .nil, List.prefix_rfl, by simp [Own], ?_⟩, .nil⟩
    rintro _ ⟨⟩
    exact ⟨rfl, by rwa [List.append_nil], by simp⟩
  | cons batch rest ih =>
    rw [downloadBatches]
    rw [List.flatten_cons, ← List.append_assoc] at hnew
    have hends (finished : List (String × Outcome)) :
        ∀ p ∈ finished.filterMap (fun p => (endState? p.2).map (p.1, ·)), IsEnd p := by
      intro p hp
      obtain ⟨q, -, hq⟩ := List.mem_filterMap.1 hp
      obtain ⟨state, hstate, rfl⟩ := Option.map_eq_some_iff.1 hq
      exact isEnd_of_endState? hstate q.1
    refine .bind (downloadBatch_follows hfin h (List.nodup_append.1 hnew).1) ?_ ?_
    · rintro _ e ⟨outcomes, finished, hperm, rfl, rfl, hg⟩
      have hbatched := Batched.cons hperm .nil
      rw [List.append_nil, List.append_nil] at hbatched
      refine ⟨⟨outcomes, hbatched, hg.initial.trans (List.prefix_append _ _), hg.own, by rintro _ ⟨⟩⟩, ?_⟩
      rw [List.filterMap_append, notes_started, notes_ended]
      exact .broken (hends finished)
    rintro _ found ⟨outcomes, finished, hperm, rfl, rfl, hg⟩
    obtain ⟨-, hknows, hfault⟩ := hg.all found rfl
    refine (ih hknows (by rwa [List.map_append])).mono ?_
    rintro es r ⟨⟨others, hes, hg'⟩, hrounds⟩
    refine ⟨⟨outcomes ++ others, .cons hperm hes, ?_, ?_, fun found' hr => ?_⟩, ?_⟩
    · rw [List.map_append]
      exact (List.prefix_append_right_inj _).2 hg'.initial
    · exact fun p hp => (List.mem_append.1 hp).elim (hg.own p) (hg'.own p)
    · obtain ⟨hurls, hknows', hfault'⟩ := hg'.all found' hr
      refine ⟨by rw [List.map_append, hurls, List.flatten_cons], by rwa [← List.append_assoc], ?_⟩
      exact fun p hp => (List.mem_append.1 hp).elim (hfault p) (hfault' p)
    · rw [List.filterMap_append, List.filterMap_append, notes_started, notes_ended]
      refine .cons (hends finished) ?_ hrounds
      rw [urls_ended fun p hp => hfault p (hperm.mem_iff.1 hp)]
      exact hperm.map _

/-- Distinct URLs are downloaded once each, in batches of one size, and what is known in the end is what came of that. -/
theorem downloadAll_rounds (hfin : c.outside.Finishes) {urls : List String} (hnew : urls.Nodup) :
    Follows c (fun ds r => (∃ outcomes, Batched outcomes ds ∧ Gathers [] urls outcomes r) ∧
      ∀ size, batchSize c.settings.downloadConcurrency = .ok size →
        Rounds (chunks size urls) r.isOk (ds.filterMap Deed.note?)) (downloadAll urls) := by
  unfold downloadAll
  refine .bind_read (.bind_orFault ?_ fun size hsize => ?_)
  · intro e he
    exact ⟨⟨[], .nil, List.nil_prefix, by simp [Own], by rintro _ ⟨⟩⟩, fun size hsize => by simp [he] at hsize⟩
  have hflat : (chunks size urls).flatten = urls := flatten_chunks size urls
  have honly : ∀ size', batchSize c.settings.downloadConcurrency = .ok size' → size = size' := by
    intro size' hsize'
    rw [hsize] at hsize'
    exact Except.ok.inj hsize'
  refine .bind (downloadBatches_rounds hfin .nil (by simpa [hflat] using hnew)) ?_ ?_
  · rintro ds e ⟨⟨outcomes, hds, hg⟩, hrounds⟩
    exact ⟨⟨outcomes, hds, hflat ▸ hg.initial, hg.own, by rintro _ ⟨⟩⟩, fun _ hs => honly _ hs ▸ hrounds⟩
  rintro ds found ⟨⟨outcomes, hds, hg⟩, hrounds⟩
  rw [hflat] at hg
  refine .bind_tell (.pure ⟨⟨outcomes, by rwa [List.append_nil], hg⟩, fun _ hs => ?_⟩)
  rw [List.append_nil]
  exact honly _ hs ▸ hrounds

theorem downloadAll_follows (hfin : c.outside.Finishes) {urls : List String} (hnew : urls.Nodup) :
    Follows c (fun ds r => ∃ outcomes, Batched outcomes ds ∧ Gathers [] urls outcomes r) (downloadAll urls) :=
  (downloadAll_rounds hfin hnew).mono fun _ _ h => h.1

end Image

end WebClip
