import WebClip.Proofs.Histories
import WebClip.Proofs.Requests
/-!
# Damaged histories

A history that is missing or cannot be read counts as an empty one, and the next clip is recorded in it. One that
can be read must be a record, with a record of clips in it if any: no clip can be recorded in anything else. What is
recorded is found again, whatever else the file holds.
-/

namespace WebClip

namespace Json

/-! ## What has been read -/

/-- A number has not too many digits. -/
theorem legible_number? {cs rest : List Char} {v : Value} (h : number? cs = .ok (v, rest)) : Legible v := by
  unfold number? at h
  split at h
  dsimp only at h
  split at h
  · cases h
  split at h
  · split at h
    next n hn =>
      cases h
      exact .int (Number.length_of_readInt hn)
    · cases h
    · cases h
  · split at h
    · cases h
      exact .float _
    · cases h

theorem legible_scalar? {cs rest : List Char} {v : Value} (h : scalar? cs = .ok (v, rest)) : Legible v := by
  unfold scalar? at h
  split at h
  next word v' hfind =>
    cases h
    have hmem := List.mem_of_find?_eq_some hfind
    simp only [literals, List.mem_cons, Prod.mk.injEq, List.not_mem_nil, or_false] at hmem
    rcases hmem with ⟨-, rfl⟩ | ⟨-, rfl⟩ | ⟨-, rfl⟩ | ⟨-, rfl⟩ | ⟨-, rfl⟩ | ⟨-, rfl⟩
    · exact .null
    · exact .bool true
    · exact .bool false
    all_goals exact .float _
  · exact legible_number? h

/-- What is read with so much fuel can be written and read again. -/
structure Reads (n : Nat) : Prop where
  value : ∀ {cs v rest}, value? n cs = .ok (v, rest) → Legible v
  items : ∀ {cs vs rest}, items? n cs = .ok (vs, rest) → ∀ v ∈ vs, Legible v
  fields : ∀ {cs fs rest}, fields? n cs = .ok (fs, rest) → ∀ p ∈ fs, Legible p.2

section Reads
variable {n : Nat} {cs rest : List Char}

theorem Reads.value_succ (ih : Reads n) {v : Value} (h : value? (n + 1) cs = .ok (v, rest)) : Legible v := by
  unfold value? at h
  split at h
  · split at h
    · cases h
      exact .text _
    · cases h
  · split at h
    · cases h
      exact .list (List.forall_mem_nil _)
    · obtain ⟨⟨vs, r⟩, hitems, he⟩ := exists_of_map h
      cases he
      exact .list (ih.items hitems)
  · split at h
    · cases h
      exact .record List.nodup_nil (List.forall_mem_nil _)
    · obtain ⟨⟨fs, r⟩, hfields, he⟩ := exists_of_map h
      cases he
      exact .record (nodup_keys_ofPairs fs) fun p hp => ih.fields hfields p (mem_of_mem_ofPairs hp)
  · exact legible_scalar? h

theorem Reads.items_succ (ih : Reads n) {vs : List Value} (h : items? (n + 1) cs = .ok (vs, rest)) :
    ∀ v ∈ vs, Legible v := by
  unfold items? at h
  obtain ⟨⟨v, rest'⟩, hv, h⟩ := exists_of_bind h
  dsimp only at h
  split at h
  · cases h
    exact List.forall_mem_singleton.2 (ih.value hv)
  · obtain ⟨⟨vs', rest''⟩, hvs, h⟩ := exists_of_bind h
    cases h
    exact List.forall_mem_cons.2 ⟨ih.value hv, ih.items hvs⟩
  · cases h

theorem Reads.fields_succ (ih : Reads n) {fs : List (String × Value)} (h : fields? (n + 1) cs = .ok (fs, rest)) :
    ∀ p ∈ fs, Legible p.2 := by
  unfold fields? at h
  dsimp only at h
  -- a quote, a key and a colon stand before the value
  split at h
  case h_2 => cases h
  split at h
  case h_2 => cases h
  rw [pure_bind] at h
  dsimp only at h
  split at h
  case h_2 => cases h
  rw [pure_bind] at h
  obtain ⟨⟨v, behind⟩, hv, h⟩ := exists_of_bind h
  dsimp only at h
  split at h
  · cases h
    exact List.forall_mem_singleton.2 (ih.value hv)
  · obtain ⟨⟨fs', more⟩, hfs, h⟩ := exists_of_bind h
    cases h
    exact List.forall_mem_cons.2 ⟨ih.value hv, ih.fields hfs⟩
  · cases h

theorem reads (n : Nat) : Reads n := by
  induction n with
  | zero => exact ⟨nofun, nofun, nofun⟩
  | succ n ih => exact ⟨ih.value_succ, ih.items_succ, ih.fields_succ⟩

end Reads

/-- A value that has been read can be written and read again. -/
theorem legible_read {s : String} {v : Value} (h : read s = .ok v) : Legible v := by
  unfold read at h
  obtain ⟨⟨v', rest⟩, hv, h⟩ := exists_of_bind h
  dsimp only at h
  split at h
  · cases h
    exact (reads _).value hv
  · cases h

theorem Legible.of_lookup {fields : List (String × Value)} (h : Legible (.record fields)) {key : String} {v : Value}
    (hv : fields.lookup key = some v) : Legible v := by
  cases h with
  | record hkeys hfields => exact hfields (key, v) (mem_of_lookup hv)

theorem Legible.putKey {fields : List (String × Value)} (h : Legible (.record fields)) (key : String) {v : Value}
    (hv : Legible v) : Legible (.record (putKey key v fields)) := by
  cases h with
  | record hkeys hfields =>
    refine .record (nodup_keys_putKey hkeys key v) fun p hp => ?_
    rcases mem_putKey hp with rfl | hmem
    · exact hv
    · exact hfields p hmem

/-- What a record holds under a key is read there again. -/
theorem lookup_rereadFields (fields : List (String × Value)) (key : String) :
    (rereadFields fields).lookup key = (fields.lookup key).map reread := by
  rw [rereadFields_eq, lookup_map]

end Json

/-- The time does not change the database. -/
theorem Clip.databaseId_stamped (c : Clip) (now : String) : (c.stamped now).databaseId = c.databaseId := by
  unfold Clip.stamped
  split <;> rfl

namespace History

/-! ## Where a clip can be recorded -/

/-- A history in which a clip can be recorded: a record, with a record of clips in it if any. -/
def Receptive (history : Value) : Prop :=
  ∃ fields, history = .record fields ∧ ∀ v, fields.lookup "clips" = some v → ∃ clips, v = .record clips

/-- A record that may hold clips, with those it holds. -/
inductive Parts : Value → List (String × Value) → List (String × Value) → Prop
  | without {fields : List (String × Value)} : fields.lookup "clips" = none → Parts (.record fields) fields []
  | holding {fields clips : List (String × Value)} : fields.lookup "clips" = some (.record clips) →
    Parts (.record fields) fields clips

theorem receptive_iff (history : Value) : Receptive history ↔ ∃ fields clips, Parts history fields clips := by
  constructor
  · rintro ⟨fields, rfl, hclips⟩
    cases hlookup : fields.lookup "clips" with
    | none => exact ⟨fields, [], .without hlookup⟩
    | some v =>
      obtain ⟨clips, rfl⟩ := hclips v hlookup
      exact ⟨fields, clips, .holding hlookup⟩
  · rintro ⟨fields, clips, hwithout | hwith⟩
    · exact ⟨fields, rfl, fun v hv => by rw [hwithout] at hv; cases hv⟩
    · exact ⟨fields, rfl, fun v hv => by rw [hwith] at hv; cases hv; exact ⟨clips, rfl⟩⟩

/-- The history that one more clip makes of the parts of another. -/
def rebuilt (key : String) (c : Clip) (fields clips : List (String × Value)) : Value :=
  .record (putKey "last_database" c.databaseId (putKey "clips" (.record (putKey key c.toValue clips)) fields))

section Add
variable {c : Clip} {key : String} {history : Value} {fields clips : List (String × Value)}

theorem add_parts (hkey : c.key = .ok key) (h : Parts history fields clips) :
    add c history = .ok (rebuilt key c fields clips) := by
  cases h with
  | without hnone => simp [add, hnone, hkey, put, rebuilt, bind, Except.bind, pure, Except.pure]
  | holding hsome => simp [add, hsome, hkey, put, rebuilt, bind, Except.bind, pure, Except.pure]

/-- No clip is recorded in anything else. -/
theorem receptive_of_add {history' : Value} (h : add c history = .ok history') : Receptive history := by
  unfold add at h
  split at h
  next fields =>
    obtain ⟨key, -, h⟩ := exists_of_bind h
    obtain ⟨clips, hput, -⟩ := exists_of_bind h
    refine ⟨fields, rfl, fun v hv => ?_⟩
    -- the clip can be put only among what is a record
    rw [hv, Option.getD_some] at hput
    unfold put at hput
    split at hput
    · exact ⟨_, rfl⟩
    · cases hput
  · cases h

theorem legible_rebuilt (hplain : c.Plain) (hlegible : Json.Legible history) (h : Parts history fields clips) :
    Json.Legible (rebuilt key c fields clips) := by
  have hclips : Json.Legible (.record clips) := by
    cases h with
    | without => exact .record List.nodup_nil nofun
    | holding hsome => exact hlegible.of_lookup hsome
  have hfields : Json.Legible (.record fields) := by
    cases h <;> exact hlegible
  exact (hfields.putKey "clips" (hclips.putKey key hplain.legible)).putKey "last_database" hplain.databaseId.legible

end Add

/-! ## What is found again -/

theorem legible_load (f : File) : Json.Legible (load f) := by
  unfold load
  split
  next v hread =>
    obtain ⟨s, -, hs⟩ := Option.map_eq_some_iff.1 hread
    exact Json.legible_read hs
  next =>
    have hnone : Json.Legible (.record []) := .record List.nodup_nil nofun
    exact .record (by simp) (by simpa using hnone)

section Found
variable {c : Clip} {key : String} {fields clips : List (String × Value)} {f : File}

theorem load_of_save_legible {history : Value} (hlegible : Json.Legible history) {f' : File}
    (h : save history f = .ok f') : load f' = Json.reread history := by
  simp [load, File.text?_write h, Json.read_write_legible hlegible]

/-- The clip that has been recorded is found under its key. -/
theorem clipOf_rebuilt (hplain : c.Plain) (h : load f = Json.reread (rebuilt key c fields clips)) :
    clipOf key f = .ok (some c) := by
  have hne : "clips" ≠ "last_database" := by decide
  have hclips : History.clips f = .ok (.record (Json.rereadFields (putKey key c.toValue clips))) := by
    rw [History.clips, h, rebuilt, Json.reread, Reply.getD, Json.lookup_rereadFields, lookup_putKey, lookup_putKey,
      if_neg hne, if_pos rfl, Option.map_some, Json.reread]
    rfl
  have hfound : (Json.rereadFields (putKey key c.toValue clips)).lookup key = some c.toValue := by
    rw [Json.lookup_rereadFields, lookup_putKey, if_pos rfl, Option.map_some, Json.Plain.reread_eq hplain]
  rw [clipOf, hclips]
  simp only [Reply.get, Reply.getD, bind, Except.bind, hfound, Option.getD_some]
  rw [if_pos (show c.toValue.truthy = true from rfl), Clip.ofValue_toValue]
  rfl

/-- Its database is the one used last. -/
theorem lastDatabase_rebuilt (hplain : c.Plain) (h : load f = Json.reread (rebuilt key c fields clips)) :
    lastDatabase f = .ok c.databaseId := by
  rw [lastDatabase, h, rebuilt, Json.reread, Reply.get, Reply.getD, Json.lookup_rereadFields, lookup_putKey]
  simp [hplain.databaseId.reread_eq]

end Found

/-- Whatever a file holds that may be written, a clip is recorded in it if that is a history in which one can be; a
file that is missing or cannot be read holds such a history. A clip that has been recorded is found under its key, and
its database is the one used last. -/
theorem record_rebuilds {f : File} {s : String} (hf : ensure f = .text s) {c : Clip} (hplain : c.Plain) {key : String}
    (hkey : c.key = .ok key) (now : String) :
    (Blank f → Receptive (load (ensure f))) ∧
      ((∃ f', record now c (ensure f) = .ok f') ↔ Receptive (load (ensure f))) ∧
      ∀ f', record now c (ensure f) = .ok f' →
        clipOf key f' = .ok (some (c.stamped now)) ∧ lastDatabase f' = .ok c.databaseId := by
  have hstamped := (c.key_stamped now).trans hkey
  have hadds : ∀ {fields clips}, Parts (load (ensure f)) fields clips →
      record now c (ensure f) = save (rebuilt key (c.stamped now) fields clips) (ensure f) := by
    intro fields clips hparts
    rw [record, add_parts hstamped hparts]
    rfl
  have hsaves : ∀ {fields clips}, Parts (load (ensure f)) fields clips → ∃ f', record now c (ensure f) = .ok f' := by
    intro fields clips hparts
    rw [hadds hparts, hf]
    exact ⟨_, rfl⟩
  have hreceptive : ∀ f', record now c (ensure f) = .ok f' → Receptive (load (ensure f)) := by
    intro f' hrecord
    obtain ⟨history, hadd, -⟩ := exists_of_bind hrecord
    exact receptive_of_add hadd
  refine ⟨fun hblank => ?_, ⟨fun ⟨f', hf'⟩ => hreceptive f' hf', fun hparts => ?_⟩, fun f' hf' => ?_⟩
  · rw [load_ensure hblank]
    exact (receptive_iff _).2 ⟨_, _, .holding rfl⟩
  · obtain ⟨fields, clips, hparts⟩ := (receptive_iff _).1 hparts
    exact hsaves hparts
  · obtain ⟨fields, clips, hparts⟩ := (receptive_iff _).1 (hreceptive f' hf')
    rw [hadds hparts] at hf'
    have hload := load_of_save_legible (legible_rebuilt (hplain.stamped now) (legible_load _) hparts) hf'
    refine ⟨clipOf_rebuilt (hplain.stamped now) hload, ?_⟩
    rw [lastDatabase_rebuilt (hplain.stamped now) hload, c.databaseId_stamped now]

section Damages

/-- A clip to be recorded. -/
def reading : Clip := ⟨.text "http://h", .text "1", .text "u", .text "d", .null⟩

theorem plain_reading : reading.Plain := plain_of_texts _ _ _ _ none

/-- A file of which only the start was written. -/
def torn : File := .text "\x7b\"clips\": "

theorem blank_torn : Blank torn := by
  rintro s ⟨⟩
  have hfails : (Json.read "\x7b\"clips\": ").isOk = false := by decide +kernel
  cases hread : Json.read "\x7b\"clips\": " with
  | error e => exact ⟨e, rfl⟩
  | ok v =>
    rw [hread] at hfails
    cases hfails

theorem torn_rebuilt :
    ensure torn = .text "\x7b\"clips\": " ∧ reading.Plain ∧ reading.key = .ok "http://h" ∧
      ∃ f', record "8:00" reading (ensure torn) = .ok f' ∧ clipOf "http://h" f' = .ok (some (reading.stamped "8:00")) ∧
        lastDatabase f' = .ok (.text "d") := by
  obtain ⟨hblank, hrecords, hfound⟩ :=
    record_rebuilds (f := torn) (c := reading) rfl plain_reading (show reading.key = .ok "http://h" from rfl) "8:00"
  obtain ⟨f', hf'⟩ := hrecords.2 (hblank blank_torn)
  exact ⟨rfl, plain_reading, rfl, f', hf', hfound f' hf'⟩

/-- Nothing is recorded in a file that holds null. -/
theorem null_not_rebuilt : ¬ ∃ f', record "8:00" reading (ensure (.text "null")) = .ok f' := by
  rintro ⟨f', hf'⟩
  have hfails : (record "8:00" reading (ensure (.text "null"))).isOk = false := by decide +kernel
  rw [hf'] at hfails
  cases hfails

end Damages

end History

end WebClip
