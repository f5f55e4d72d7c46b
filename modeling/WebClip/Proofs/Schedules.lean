import Mathlib.Data.List.Perm.Basic
import WebClip.Proofs.Absorbing
/-!
# Schedules of downloads

Where what comes of a download depends on nothing but its URL, what is known after all downloads
does neither: it is the same however many go on at a time, and in whichever order they end. No more
of them are under way than may be, and a batch waits for the one before it.
-/

namespace WebClip

open Act

variable {σ τ : Type}

/-- A clipper whose downloads go on so many at a time, and end in this order. -/
def Clipper.scheduled (c : Clipper σ τ) (finish : List String → List Nat) (concurrency : Int) : Clipper σ τ :=
  { c with
    outside := { c.outside with finish := finish }
    settings := { c.settings with downloadConcurrency := .int concurrency } }

namespace Image

/-! ## Downloads under way -/

/-- The downloads under way after one more note of them. -/
def underwayAfter (urls : List String) (p : String × ImageState) : List String :=
  match p.2 with
  | .downloading => urls ++ [p.1]
  | .downloaded | .downloadFailed => urls.erase p.1
  | _ => urls

/-- The downloads under way after all these notes: those that have been started and have not ended. -/
def underway (notes : List (String × ImageState)) : List String := notes.foldl underwayAfter []

theorem foldl_starts (urls batch : List String) : (starts batch).foldl underwayAfter urls = urls ++ batch := by
  induction batch generalizing urls with
  | nil => exact (List.append_nil urls).symm
  | cons url rest ih => exact (ih (urls ++ [url])).trans (by simp)

theorem foldl_ends {ends : List (String × ImageState)} (h : ∀ p ∈ ends, IsEnd p) (urls : List String) :
    ends.foldl underwayAfter urls = urls.diff (ends.map (·.1)) := by
  induction ends generalizing urls with
  | nil => rfl
  | cons p rest ih =>
    obtain ⟨hp, hrest⟩ := List.forall_mem_cons.1 h
    obtain ⟨url, state⟩ := p
    rw [List.foldl_cons, ih hrest, List.map_cons, List.diff_cons]
    rcases hp with rfl | rfl <;> rfl

theorem underway_starts (batch : List String) : underway (starts batch) = batch := foldl_starts [] batch

theorem underway_round (batch : List String) {ends : List (String × ImageState)} (h : ∀ p ∈ ends, IsEnd p) :
    underway (starts batch ++ ends) = batch.diff (ends.map (·.1)) := by
  rw [underway, List.foldl_append, foldl_starts, List.nil_append, foldl_ends h]

/-- Nothing is under way any more once all of a batch has ended. -/
theorem underway_done {batch : List String} {ends : List (String × ImageState)} (h : ∀ p ∈ ends, IsEnd p)
    (hperm : (ends.map (·.1)).Perm batch) : underway (starts batch ++ ends) = [] := by
  have hself : ∀ urls : List String, urls.diff urls = [] := by
    intro urls
    induction urls with
    | nil => rfl
    | cons url rest ih => rw [List.diff_cons, List.erase_cons_head, ih]
  rw [underway_round batch h, List.Perm.diff_left batch hperm, hself]

/-- At no time are more downloads of a batch under way than it has. -/
theorem length_underway_le {batch : List String} {ends notes : List (String × ImageState)}
    (h : ∀ p ∈ ends, IsEnd p) (hpre : notes <+: starts batch ++ ends) : (underway notes).length ≤ batch.length := by
  obtain ⟨more, hmore⟩ := hpre
  rcases List.append_eq_append_iff.1 hmore with ⟨unstarted, hstarts, -⟩ | ⟨ended, rfl, hends⟩
  · -- only some of the batch has been started
    obtain ⟨begun, rest, rfl, rfl, -⟩ := List.map_eq_append_iff.1 hstarts
    rw [show underway (begun.map (·, .downloading)) = begun from underway_starts begun, List.length_append]
    exact Nat.le_add_right _ _
  · have hended : ∀ p ∈ ended, IsEnd p := fun p hp => h p (hends ▸ List.mem_append_left _ hp)
    rw [underway_round batch hended]
    exact (List.diff_sublist batch _).length_le

/-! ## Rounds of downloads -/

namespace Rounds

variable {batches : List (List String)} {all : Bool} {notes : List (String × ImageState)}

/-- No more downloads are under way than a batch has. -/
theorem bounded (h : Rounds batches all notes) {size : Nat} (hsize : ∀ batch ∈ batches, batch.length ≤ size)
    {pre : List (String × ImageState)} (hpre : pre <+: notes) : (underway pre).length ≤ size := by
  induction h generalizing pre with
  | nil =>
    rw [List.prefix_nil.1 hpre]
    exact Nat.zero_le _
  | broken hends => exact Nat.le_trans (length_underway_le hends hpre) (hsize _ List.mem_cons_self)
  | @cons batch rest all ends notes hends hperm _ ih =>
    obtain ⟨more, hmore⟩ := hpre
    rcases List.append_eq_append_iff.1 hmore with ⟨undone, hround, -⟩ | ⟨later, rfl, hlater⟩
    · exact Nat.le_trans (length_underway_le hends ⟨undone, hround.symm⟩) (hsize _ List.mem_cons_self)
    · -- the batch has ended, so that all that is under way belongs to later ones
      have hfold : underway (starts batch ++ ends ++ later) = underway later := by
        rw [underway, List.foldl_append, ← underway, underway_done hends hperm]
        rfl
      rw [hfold]
      exact ih (fun b hb => hsize b (List.mem_cons_of_mem _ hb)) ⟨more, hlater.symm⟩

/-- A round starts no downloads but those of its batch. -/
theorem not_mem_round {batch : List String} {ends : List (String × ImageState)} (h : ∀ p ∈ ends, IsEnd p) {url : String}
    (hurl : url ∉ batch) : (url, ImageState.downloading) ∉ starts batch ++ ends := by
  intro hmem
  rcases List.mem_append.1 hmem with hmem | hmem
  · obtain ⟨_, hbatch, heq⟩ := List.mem_map.1 hmem
    cases heq
    exact hurl hbatch
  · rcases h _ hmem with hstate | hstate <;> cases hstate

/-- What does not occur in the first of two parts occurs in the second. -/
theorem exists_of_append_eq {α : Type} {xs ys pre post : List α} {x : α} (h : xs ++ ys = pre ++ x :: post) (hx : x ∉ xs) :
    ∃ mid, pre = xs ++ mid ∧ ys = mid ++ x :: post := by
  rcases List.append_eq_append_iff.1 h with ⟨mid, hpre, hys⟩ | ⟨mid, hxs, hpost⟩
  · exact ⟨mid, hpre, hys⟩
  · cases mid with
    | nil => exact ⟨[], by rw [hxs, List.append_nil, List.append_nil], hpost.symm⟩
    | cons y mid =>
      obtain ⟨rfl, -⟩ := List.cons.inj hpost
      exact absurd (hxs ▸ List.mem_append_right pre List.mem_cons_self) hx

/-- A batch is started when every download of the batches before it has ended. -/
theorem separate (h : Rounds batches all notes) (hnodup : batches.flatten.Nodup) {before after : List (List String)}
    {batch : List String} (hbatches : batches = before ++ batch :: after) {url : String} (hurl : url ∈ batch)
    {pre post : List (String × ImageState)} (hnotes : notes = pre ++ (url, .downloading) :: post) :
    ∀ earlier ∈ before.flatten, ∃ p ∈ pre, p.1 = earlier ∧ IsEnd p := by
  -- a batch that comes later shares no URL with the first one
  have hlater {first : List String} {before' rest : List (List String)} (hrest : rest = before' ++ batch :: after)
      (hnodup : (first :: rest).flatten.Nodup) : url ∉ first := by
    rw [List.flatten_cons, List.nodup_append, hrest] at hnodup
    intro hfirst
    refine hnodup.2.2 url hfirst url ?_ rfl
    exact List.mem_flatten_of_mem (by simp) hurl
  induction h generalizing before pre with
  | nil => simp at hbatches
  | broken hends =>
    cases before with
    | nil => simp
    | cons first before =>
      obtain ⟨rfl, hrest⟩ := List.cons.inj hbatches
      refine absurd ?_ (not_mem_round hends (hlater hrest hnodup))
      exact hnotes ▸ List.mem_append_right pre List.mem_cons_self
  | cons hends hperm _ ih =>
    cases before with
    | nil => simp
    | cons first before =>
      obtain ⟨rfl, hrest⟩ := List.cons.inj hbatches
      obtain ⟨mid, rfl, hmid⟩ := exists_of_append_eq hnotes (not_mem_round hends (hlater hrest hnodup))
      rw [List.flatten_cons, List.nodup_append] at hnodup
      intro earlier hearlier
      rcases List.mem_append.1 hearlier with hearlier | hearlier
      · obtain ⟨p, hp, rfl⟩ := List.mem_map.1 (hperm.mem_iff.2 hearlier)
        exact ⟨p, List.mem_append_left _ (List.mem_append_right _ hp), rfl, hends p hp⟩
      · obtain ⟨p, hp, hend⟩ := ih hnodup.2.1 hrest hmid earlier hearlier
        exact ⟨p, List.mem_append_right _ hp, hend⟩

/-- Where all batches have been downloaded, each download has been started and has ended. -/
theorem complete (h : Rounds batches all notes) (hall : all = true) : ∀ url ∈ batches.flatten,
    (url, .downloading) ∈ notes ∧ ∃ p ∈ notes, p.1 = url ∧ IsEnd p := by
  induction h with
  | nil => simp
  | broken => cases hall
  | @cons batch _ _ ends _ hends hperm _ ih =>
    intro url hurl
    rcases List.mem_append.1 hurl with hurl | hurl
    · obtain ⟨p, hp, hpurl⟩ := List.mem_map.1 (hperm.mem_iff.2 hurl)
      constructor
      · exact List.mem_append_left _ (List.mem_append_left _ (List.mem_map_of_mem hurl))
      · exact ⟨p, List.mem_append_left _ (List.mem_append_right _ hp), hpurl, hends p hp⟩
    · obtain ⟨hstart, p, hp, hend⟩ := ih hall url hurl
      exact ⟨List.mem_append_right _ hstart, p, List.mem_append_right _ hp, hend⟩

end Rounds

/-! ## What comes of scheduled downloads -/

section Scheduled
variable (c : Clipper σ τ) (finish : List String → List Nat) (n : Int)

theorem bind_scheduled {α β : Type} {a : Act σ τ α} {f : α → Act σ τ β}
    (ha : ∀ s, carryOut a (c.scheduled finish n) s = carryOut a c s)
    (hf : ∀ x s, carryOut (f x) (c.scheduled finish n) s = carryOut (f x) c s) (s : Session σ τ) :
    carryOut (a >>= f) (c.scheduled finish n) s = carryOut (a >>= f) c s := by
  rw [carryOut_bind, carryOut_bind, ha]
  rcases carryOut a c s with ⟨e | x, t⟩
  · rfl
  · exact hf x t

theorem fetchFrom_scheduled (hops : Nat) (url : String) (s : Session σ τ) :
    carryOut (Download.fetchFrom hops url) (c.scheduled finish n) s = carryOut (Download.fetchFrom hops url) c s := by
  induction hops generalizing url s with
  | zero =>
    unfold Download.fetchFrom
    refine bind_scheduled c finish n (fun _ => rfl) (fun response t => ?_) s
    split
    · split <;> rfl
    · rfl
  | succ hops ih =>
    unfold Download.fetchFrom
    refine bind_scheduled c finish n (fun _ => rfl) (fun response t => ?_) s
    split
    · split
      · rfl
      · dsimp only
        split
        · exact ih _ t
        · rfl
    · rfl

/-- One download knows nothing of the others. -/
theorem run_scheduled (url : String) (s : Session σ τ) :
    carryOut (Download.run url) (c.scheduled finish n) s = carryOut (Download.run url) c s := by
  unfold Download.run
  rw [carryOut_bind, carryOut_read, carryOut_bind, carryOut_read]
  dsimp only
  split
  · rw [carryOut_orFault, carryOut_orFault]
    rfl
  · split
    · rfl
    · refine bind_scheduled c finish n (fetchFrom_scheduled c finish n _ url) (fun response t => ?_) s
      cases response with
      | answer r =>
        dsimp only
        rw [carryOut_orFault, carryOut_orFault]
      | failure f => rfl
      | silence => rfl

end Scheduled

/-- What comes of these downloads depends on nothing but their URLs. -/
def Determined (c : Clipper σ τ) (urls : List String) (outcome : String → Outcome) : Prop :=
  ∀ url ∈ urls, ∀ s, (carryOut (Download.run url) c s).1 = outcome url

/-- Something that comes to the same from every session. -/
def Steady {α : Type} (c : Clipper σ τ) (a : Act σ τ α) : Prop := ∀ s t, (carryOut a c s).1 = (carryOut a c t).1

theorem Steady.bind {α β : Type} {c : Clipper σ τ} {a : Act σ τ α} {f : α → Act σ τ β} (ha : Steady c a)
    (hf : ∀ x, Steady c (f x)) : Steady c (a >>= f) := by
  intro s t
  have heq := ha s t
  rw [carryOut_bind, carryOut_bind]
  rcases hs : carryOut a c s with ⟨r, s'⟩
  rcases ht : carryOut a c t with ⟨r', t'⟩
  rw [hs, ht] at heq
  obtain rfl : r = r' := heq
  cases r with
  | error e => rfl
  | ok x => exact hf x s' t'

theorem Steady.orFault {α : Type} {c : Clipper σ τ} (r : Except Fault α) : Steady c (Act.orFault r) := by
  intro s t
  rw [carryOut_orFault, carryOut_orFault]

/-- Hosts that always answer the same about a URL. -/
def SteadyHosts (o : Outside σ τ) : Prop := ∀ url w w', (o.fetch url w).1 = (o.fetch url w').1

theorem fetchFrom_steady {c : Clipper σ τ} (h : SteadyHosts c.outside) (hops : Nat) (url : String) :
    Steady c (Download.fetchFrom hops url) := by
  have hfetch (url : String) : Steady c (Act.fetch url) := fun s t => congrArg Except.ok (h url s.outside t.outside)
  have hpure (a : Response HttpReply) : Steady c (pure a) := fun _ _ => rfl
  induction hops generalizing url with
  | zero =>
    unfold Download.fetchFrom
    refine (hfetch url).bind fun response => ?_
    split
    · split
      · exact hpure _
      · exact hpure _
    · exact hpure _
  | succ hops ih =>
    unfold Download.fetchFrom
    refine (hfetch url).bind fun response => ?_
    split
    · split
      · exact hpure _
      · dsimp only
        split
        · exact ih _
        · exact hpure _
    · exact hpure _

/-- Where hosts always answer the same, what comes of a download depends on nothing but its URL. -/
theorem determined_of_steady {c : Clipper σ τ} (h : SteadyHosts c.outside) (urls : List String) (s : Session σ τ) :
    Determined c urls fun url => (carryOut (Download.run url) c s).1 := by
  intro url _ t
  have hrun : Steady c (Download.run url) := by
    unfold Download.run
    refine .bind (fun _ _ => rfl) fun c' => ?_
    split
    · exact .orFault _
    · split
      · exact fun _ _ => rfl
      · refine (fetchFrom_steady h _ url).bind fun response => ?_
        cases response with
        | answer r => exact .orFault _
        | failure f => exact fun _ _ => rfl
        | silence => exact fun _ _ => rfl
  exact hrun t s

/-- What is known after downloads that come to these outcomes: of each URL an image or the message of an error, and
of no other URL anything. -/
structure Downloads.Tell (found : Downloads) (urls : List String) (outcome : String → Outcome) : Prop where
  images : ∀ url, found.images.lookup url = if url ∈ urls then (outcome url).toOption else none
  errors : ∀ url, found.errors.lookup url = if url ∈ urls then failure? (outcome url) else none
  disjoint : ∀ url, found.images.lookup url = none ∨ found.errors.lookup url = none
  cover : ∀ url, url ∈ urls ↔ (found.images.lookup url).isSome ∨ (found.errors.lookup url).isSome

/-- What comes of a download that ends as downloads do is an image or a message, and not both. -/
theorem toOption_or_failure? {o : Outcome} (h : fault? o = none) :
    (o.toOption.isSome ∧ failure? o = none) ∨ (o.toOption = none ∧ (failure? o).isSome) := by
  cases o with
  | ok image => exact .inl ⟨rfl, rfl⟩
  | error f =>
    cases hf : failure? (.error f) with
    | none => simp [fault?, hf] at h
    | some message => exact .inr ⟨rfl, rfl⟩

/-- Each of the outcomes is that of a download that was made. -/
theorem Batched.downloaded {outcomes : List (String × Outcome)} {ds : List Deed} (h : Batched outcomes ds)
    {p : String × Outcome} (hp : p ∈ outcomes) : .downloaded p.1 p.2 ∈ ds := by
  rw [← h.downloads] at hp
  obtain ⟨d, hd, hdown⟩ := List.mem_filterMap.1 hp
  cases d with
  | downloaded url o => cases hdown; exact hd
  | _ => cases hdown

variable [Clock τ] {c : Clipper σ τ} {urls : List String} {outcome : String → Outcome}

theorem Determined.of_downloaded (h : Determined c urls outcome) {s t : Session σ τ} {ds : List Deed}
    (hc : Session.Course c s ds t) {url : String} (hurl : url ∈ urls) {o : Outcome} (hd : .downloaded url o ∈ ds) :
    o = outcome url := by
  obtain ⟨s', t', hmakes⟩ := hc.exists_makes hd
  cases hmakes with
  | downloaded hcarry => rw [← h url hurl s', hcarry]

/-- What is known in the end does not depend on the course that the downloads have taken. -/
theorem Downloads.Knows.tell {found : Downloads} {outcomes : List (String × Outcome)} (h : found.Knows outcomes)
    (hurls : outcomes.map (·.1) = urls) (hall : ∀ p ∈ outcomes, p.2 = outcome p.1)
    (hfault : ∀ p ∈ outcomes, fault? p.2 = none) : found.Tell urls outcome := by
  have hin : ∀ url ∈ urls, found.images.lookup url = (outcome url).toOption ∧
      found.errors.lookup url = failure? (outcome url) ∧ fault? (outcome url) = none := by
    intro url hurl
    obtain ⟨p, hp, rfl⟩ := List.mem_map.1 (hurls ▸ hurl)
    obtain ⟨himages, herrors⟩ := h.known p hp
    exact ⟨hall p hp ▸ himages, hall p hp ▸ herrors, hall p hp ▸ hfault p hp⟩
  have hout : ∀ url, url ∉ urls → found.images.lookup url = none ∧ found.errors.lookup url = none :=
    fun url hurl => h.unknown url (hurls ▸ hurl)
  constructor
  · intro url
    split
    · exact (hin url ‹_›).1
    · exact (hout url ‹_›).1
  · intro url
    split
    · exact (hin url ‹_›).2.1
    · exact (hout url ‹_›).2
  · intro url
    by_cases hurl : url ∈ urls
    · obtain ⟨himages, herrors, hfault⟩ := hin url hurl
      rw [himages, herrors]
      rcases toOption_or_failure? hfault with ⟨-, hnone⟩ | ⟨hnone, -⟩
      · exact .inr hnone
      · exact .inl hnone
    · exact .inl (hout url hurl).1
  · intro url
    constructor
    · intro hurl
      obtain ⟨himages, herrors, hfault⟩ := hin url hurl
      rw [himages, herrors]
      exact (toOption_or_failure? hfault).imp (·.1) (·.2)
    · intro hsome
      by_contra hurl
      rw [(hout url hurl).1, (hout url hurl).2] at hsome
      simp at hsome

/-- How downloads go on in batches of a size: no more at a time, and one batch after another. -/
structure Paced (size : Nat) (batches : List (List String)) (notes : List (String × ImageState)) : Prop where
  bounded : ∀ pre, pre <+: notes → (underway pre).length ≤ size
  separate : ∀ before batch after, batches = before ++ batch :: after → ∀ url ∈ batch, ∀ pre post,
    notes = pre ++ (url, .downloading) :: post → ∀ earlier ∈ before.flatten, ∃ p ∈ pre, p.1 = earlier ∧ IsEnd p

/-- Downloading images of which it is given what comes of each, so many at a time. -/
structure Scheduled (c : Clipper σ τ) (urls : List String) (outcome : String → Outcome) (size : Nat)
    (s : Session σ τ) : Prop where
  /-- What is known in the end is what comes of each, where hosts answer or fail as hosts do. -/
  gives : c.outside.Ordinary → (∀ bytes, ∃ b, Download.exceeds bytes c.settings.maxImageBytes = .ok b) →
    ∃ found, (carryOut (downloadAll urls) c s).1 = .ok found ∧ found.Tell urls outcome
  /-- With any hosts, only a download that ends in some other way than downloads do keeps that from being known. -/
  returns : (∃ found, (carryOut (downloadAll urls) c s).1 = .ok found) ↔ ∀ url ∈ urls, fault? (outcome url) = none
  tells : ∀ found, (carryOut (downloadAll urls) c s).1 = .ok found → found.Tell urls outcome
  paced : ∃ notes, (carryOut (downloadAll urls) c s).2.transitions = notes.reverse ++ s.transitions ∧
    Paced size (chunks size urls) notes ∧
    ∀ found, (carryOut (downloadAll urls) c s).1 = .ok found →
      ∀ url ∈ urls, (url, .downloading) ∈ notes ∧ ∃ p ∈ notes, p.1 = url ∧ IsEnd p

theorem Rounds.paced {batches : List (List String)} {all : Bool} {notes : List (String × ImageState)}
    (h : Rounds batches all notes) (hnodup : batches.flatten.Nodup) {size : Nat}
    (hsize : ∀ batch ∈ batches, batch.length ≤ size) : Paced size batches notes where
  bounded _ hpre := h.bounded hsize hpre
  separate _ _ _ hbatches _ hurl _ _ hnotes := h.separate hnodup hbatches hurl hnotes

/-- What is known after downloads that return is what comes of each. -/
theorem downloadAll_tells (hfin : c.outside.Finishes) (hnew : urls.Nodup) (hout : Determined c urls outcome)
    {s : Session σ τ} {found : Downloads} (hr : (carryOut (downloadAll urls) c s).1 = .ok found) :
    found.Tell urls outcome ∧ ∀ url ∈ urls, fault? (outcome url) = none := by
  obtain ⟨ds, hc, outcomes, hds, hg⟩ := downloadAll_follows hfin hnew s
  obtain ⟨hurls, hknows, hfault⟩ := hg.all found hr
  have hall : ∀ p ∈ outcomes, p.2 = outcome p.1 := by
    intro p hp
    exact hout.of_downloaded hc (hurls ▸ List.mem_map_of_mem hp) (hds.downloaded hp)
  refine ⟨hknows.tell hurls hall hfault, fun url hurl => ?_⟩
  obtain ⟨p, hp, rfl⟩ := List.mem_map.1 (hurls ▸ hurl)
  exact hall p hp ▸ hfault p hp

/-- Downloads all of which end as downloads do return. -/
theorem downloadAll_returns (hout : Determined c urls outcome) {size : Nat}
    (hsize : batchSize c.settings.downloadConcurrency = .ok size) (hfault : ∀ url ∈ urls, fault? (outcome url) = none)
    (s : Session σ τ) : ∃ found, (carryOut (downloadAll urls) c s).1 = .ok found := by
  obtain ⟨ds, hc, hbroken⟩ := downloadAll_broken urls s
  cases hr : (carryOut (downloadAll urls) c s).1 with
  | ok found => exact ⟨found, rfl⟩
  | error f =>
    -- the fault would be that of one of the downloads
    rcases hbroken f hr with hf | ⟨url, hurl, hd, hf⟩
    · rw [hsize] at hf
      cases hf
    · rw [hout.of_downloaded hc hurl hd, hfault url hurl] at hf
      cases hf

/-- Whatever the number of downloads at a time, and whatever the order in which they end, what is known in the end is
what comes of each URL, and the downloads keep to their batches. -/
theorem downloadAll_scheduled (hnew : urls.Nodup) (hout : Determined c urls outcome) (finish : List String → List Nat)
    (hfin : ∀ urls, (finish urls).Perm (List.range urls.length)) (n : Int) (s : Session σ τ) :
    Scheduled (c.scheduled finish n) urls outcome (max 1 n.toNat) s := by
  have hfin' : (c.scheduled finish n).outside.Finishes := hfin
  have hsize : batchSize (c.scheduled finish n).settings.downloadConcurrency = .ok (max 1 n.toNat) := rfl
  have hout' : Determined (c.scheduled finish n) urls outcome := by
    intro url hurl t
    rw [run_scheduled]
    exact hout url hurl t
  have hreturns : (∃ found, (carryOut (downloadAll urls) (c.scheduled finish n) s).1 = .ok found) ↔
      ∀ url ∈ urls, fault? (outcome url) = none := by
    constructor
    · rintro ⟨found, hr⟩
      exact (downloadAll_tells hfin' hnew hout' hr).2
    · intro hfault
      exact downloadAll_returns hout' hsize hfault s
  have htells : ∀ found, (carryOut (downloadAll urls) (c.scheduled finish n) s).1 = .ok found →
      found.Tell urls outcome :=
    fun _ hr => (downloadAll_tells hfin' hnew hout' hr).1
  refine ⟨fun hhosts hlimit => ?_, hreturns, htells, ?_⟩
  · have hends : ∀ url ∈ urls, fault? (outcome url) = none := by
      intro url hurl
      rw [← hout' url hurl s]
      exact fault?_ordinary hhosts hlimit url s
    obtain ⟨found, hr⟩ := hreturns.2 hends
    exact ⟨found, hr, htells found hr⟩
  · obtain ⟨ds, hc, -, hrounds⟩ := downloadAll_rounds hfin' hnew s
    have hflat : (chunks (max 1 n.toNat) urls).flatten = urls := flatten_chunks _ urls
    refine ⟨ds.filterMap Deed.note?, hc.transitions, ?_, fun found hr url hurl => ?_⟩
    · apply (hrounds _ hsize).paced
      · rwa [hflat]
      · intro batch hbatch
        exact length_le_of_mem_chunks (by omega) hbatch
    · apply (hrounds _ hsize).complete
      · rw [hr]
        rfl
      · rwa [hflat]

section ThreePictures

/-- Downloads end in the order in which they have been started. -/
def inOrder (urls : List String) : List Nat := List.range urls.length

theorem hospitable_ordinary : hospitable.Ordinary := by
  constructor
  · exact fun _ _ => ⟨nofun, nofun⟩
  · exact fun _ _ _ => nofun

/-- Three images of which one cannot be reached, one at a time although none is asked for. -/
theorem threePictures_scheduled :
    ["data:image/gif,a", "http://h/b", "data:image/gif,c"].Nodup ∧
      Determined hospitableClipper ["data:image/gif,a", "http://h/b", "data:image/gif,c"]
        (fun url => (carryOut (Download.run url) hospitableClipper hospitableSession).1) ∧
      (∀ urls, (inOrder urls).Perm (List.range urls.length)) ∧
      Scheduled (hospitableClipper.scheduled inOrder 0) ["data:image/gif,a", "http://h/b", "data:image/gif,c"]
        (fun url => (carryOut (Download.run url) hospitableClipper hospitableSession).1) 1 hospitableSession ∧
      ∃ found, (carryOut (downloadAll ["data:image/gif,a", "http://h/b", "data:image/gif,c"])
          (hospitableClipper.scheduled inOrder 0) hospitableSession).1 = .ok found ∧
        found.Tell ["data:image/gif,a", "http://h/b", "data:image/gif,c"]
          fun url => (carryOut (Download.run url) hospitableClipper hospitableSession).1 := by
  have hout := determined_of_steady (c := hospitableClipper) (fun _ _ _ => rfl)
    ["data:image/gif,a", "http://h/b", "data:image/gif,c"] hospitableSession
  have hscheduled := downloadAll_scheduled (by decide) hout inOrder (fun _ => .refl _) 0 hospitableSession
  have hordinary : (hospitableClipper.scheduled inOrder 0).outside.Ordinary :=
    ⟨hospitable_ordinary.foreseen, hospitable_ordinary.detached⟩
  exact ⟨by decide, hout, fun _ => .refl _, hscheduled, hscheduled.gives hordinary fun _ => ⟨_, rfl⟩⟩

end ThreePictures

end Image

end WebClip
