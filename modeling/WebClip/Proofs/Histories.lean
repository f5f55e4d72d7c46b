import WebClip.History
import WebClip.Proofs.JsonTexts
import WebClip.Proofs.Rewriting
/-!
# Histories remember the last clip of each source

A history is read, changed and written back as a whole for every clip. What it answers afterwards is
what the clips recorded so far come to: under each key the last one, and the database of the very
last. A clip that cannot be recorded, as the file must not be written, changes no answer.
-/

namespace WebClip

/-- A clip of which JSON keeps everything: without numbers. -/
def Clip.Plain (c : Clip) : Prop := Json.Plain c.toValue

theorem Clip.Plain.databaseId {c : Clip} (h : c.Plain) : Json.Plain c.databaseId := by
  cases h with
  | record _ hfields => exact hfields ("database_id", c.databaseId) (by simp)

theorem Clip.Plain.stamped {c : Clip} (h : c.Plain) (now : String) : (c.stamped now).Plain := by
  unfold Clip.stamped
  split
  · cases h with
    | record hkeys hfields =>
      refine .record hkeys fun p hp => ?_
      simp only [List.mem_cons, List.not_mem_nil, or_false] at hp
      rcases hp with rfl | rfl | rfl | rfl | rfl
      · exact hfields ("source_url", c.sourceUrl) (by simp)
      · exact hfields ("page_id", c.pageId) (by simp)
      · exact hfields ("page_url", c.pageUrl) (by simp)
      · exact hfields ("database_id", c.databaseId) (by simp)
      · exact .text now
  · exact h

/-- The time does not change the key. -/
theorem Clip.key_stamped (c : Clip) (now : String) : (c.stamped now).key = c.key := by
  unfold Clip.stamped
  split <;> rfl

/-- The record of a clip is read as that clip. -/
theorem Clip.ofValue_toValue (c : Clip) : Clip.ofValue c.toValue = .ok c := by
  simp [Clip.ofValue, Clip.toValue, List.lookup_cons]

namespace History

/-! ## The history of some clips -/

/-- The field of the database used last, where a clip has been recorded. -/
def lastUsed (recorded : List (String × Clip)) : List (String × Value) :=
  (recorded.getLast?.map fun p => ("last_database", p.2.databaseId)).toList

/-- The history of clips recorded one after another under their keys. -/
def ofClips (recorded : List (String × Clip)) : Value :=
  .record (("clips", .record ((ofPairs recorded).map fun p => (p.1, p.2.toValue))) :: lastUsed recorded)

variable {recorded : List (String × Clip)} {f : File}

theorem lastUsed_concat (recorded : List (String × Clip)) (key : String) (c : Clip) :
    lastUsed (recorded ++ [(key, c)]) = [("last_database", c.databaseId)] := by
  simp [lastUsed]

theorem plain_ofClips (h : ∀ p ∈ recorded, p.2.Plain) : Json.Plain (ofClips recorded) := by
  have hclips : Json.Plain (.record ((ofPairs recorded).map fun p => (p.1, p.2.toValue))) := by
    refine .record ?_ fun p hp => ?_
    · rw [List.map_map]
      exact nodup_keys_ofPairs recorded
    · obtain ⟨q, hq, rfl⟩ := List.mem_map.1 hp
      exact h q (mem_of_mem_ofPairs hq)
  unfold ofClips
  cases hlast : recorded.getLast? with
  | none =>
    simp only [lastUsed, hlast, Option.map_none, Option.toList_none]
    exact .record (by simp) (by simpa using hclips)
  | some p =>
    have hdatabase := (h p (List.mem_of_getLast? hlast)).databaseId
    simp only [lastUsed, hlast, Option.map_some, Option.toList_some]
    exact .record (by simp) (by simpa using ⟨hclips, hdatabase⟩)

/-- One more clip makes the history of one clip more. -/
theorem add_ofClips {c : Clip} {key : String} (hkey : c.key = .ok key) :
    add c (ofClips recorded) = .ok (ofClips (recorded ++ [(key, c)])) := by
  have hput : putKey key c.toValue ((ofPairs recorded).map fun p => (p.1, p.2.toValue)) =
      (ofPairs (recorded ++ [(key, c)])).map fun p => (p.1, p.2.toValue) := by
    rw [ofPairs_concat]
    exact putKey_map Clip.toValue key c (ofPairs recorded)
  rw [ofClips, ofClips, lastUsed_concat, ← hput]
  unfold add
  dsimp only
  rw [hkey]
  cases hlast : recorded.getLast? <;> simp [lastUsed, hlast, put, putKey, bind, Except.bind, pure, Except.pure]

/-! ## What a history answers -/

/-- What a file answers that remembers these clips. -/
structure Remembers (f : File) (recorded : List (String × Clip)) : Prop where
  /-- All keys under which clips have been recorded, each with the last of them. -/
  listed : ∃ clips, list f = .ok clips ∧ (clips.map (·.1)).Nodup ∧
    (∀ key, key ∈ clips.map (·.1) ↔ key ∈ recorded.map (·.1)) ∧
    ∀ key c, (key, c) ∈ clips ↔ recorded.reverse.lookup key = some c
  found : ∀ key, clipOf key f = .ok (recorded.reverse.lookup key)
  last : lastDatabase f = .ok ((recorded.getLast?.map fun p => p.2.databaseId).getD .null)

theorem clips_of_load (h : load f = ofClips recorded) :
    clips f = .ok (.record ((ofPairs recorded).map fun p => (p.1, p.2.toValue))) := by
  unfold clips
  rw [h]
  simp [ofClips, Reply.getD]

theorem list_of_load (h : load f = ofClips recorded) : list f = .ok (ofPairs recorded) := by
  have hmap : ∀ entries : List (String × Clip), (entries.map fun p => (p.1, p.2.toValue)).mapM (fun p => do
      pure (p.1, ← Clip.ofValue p.2)) = (.ok entries : Except Fault _) := by
    intro entries
    induction entries with
    | nil => rfl
    | cons p rest ih =>
      rw [List.map_cons, List.mapM_cons, ih, Clip.ofValue_toValue]
      rfl
  unfold list
  rw [clips_of_load h]
  exact hmap (ofPairs recorded)

theorem clipOf_of_load (h : load f = ofClips recorded) (key : String) :
    clipOf key f = .ok (recorded.reverse.lookup key) := by
  unfold clipOf
  rw [clips_of_load h]
  simp only [Reply.get, Reply.getD, bind, Except.bind, lookup_map, lookup_ofPairs]
  cases recorded.reverse.lookup key with
  | none => rfl
  | some c =>
    have htruthy : c.toValue.truthy = true := rfl
    simp [htruthy, Clip.ofValue_toValue, pure, Except.pure]

theorem lastDatabase_of_load (h : load f = ofClips recorded) :
    lastDatabase f = .ok ((recorded.getLast?.map fun p => p.2.databaseId).getD .null) := by
  unfold lastDatabase
  rw [h]
  have hkeys : ("last_database" == "clips") = false := by decide
  cases hlast : recorded.getLast? <;> simp [ofClips, lastUsed, hlast, Reply.get, Reply.getD, List.lookup_cons, hkeys]

theorem remembers_of_load (h : load f = ofClips recorded) : Remembers f recorded where
  listed := by
    refine ⟨ofPairs recorded, list_of_load h, nodup_keys_ofPairs recorded, fun _ => mem_keys_ofPairs, ?_⟩
    intro key c
    rw [mem_iff_lookup (nodup_keys_ofPairs recorded), lookup_ofPairs]
  found := clipOf_of_load h
  last := lastDatabase_of_load h

/-! ## What happens to a history -/

/-- A clip that is to be recorded at some time. -/
structure Entry where
  now : String
  clip : Clip

/-- Record a clip. -/
def Entry.record (x : Entry) (f : File) : Except Fault File := History.record x.now x.clip f

/-- The key and the clip that are recorded. -/
def Entry.pair? (x : Entry) : Option (String × Clip) := x.clip.key.toOption.map fun key => (key, x.clip.stamped x.now)

/-- The file after some clips are recorded, or not, and its owner does something between them. -/
abbrev run (f : File) (es : List (File.Event Entry)) : File := f.run Entry.record es

/-- The clips that have been recorded on the way, in order. -/
def recordedIn (f : File) (es : List (File.Event Entry)) : List (String × Clip) :=
  (f.done Entry.record es).filterMap Entry.pair?

theorem record_of_load (h : load f = ofClips recorded) {c : Clip} {key : String} (hkey : c.key = .ok key) (now : String) :
    record now c f = save (ofClips (recorded ++ [(key, c.stamped now)])) f := by
  unfold record
  rw [h, add_ofClips ((c.key_stamped now).trans hkey)]
  rfl

/-- A clip without a key is not recorded. -/
theorem record_of_key_error (h : load f = ofClips recorded) {c : Clip} {e : Fault} (hkey : c.key = .error e)
    (now : String) : record now c f = .error e := by
  unfold record add
  rw [h, ofClips]
  dsimp only
  rw [c.key_stamped now, hkey]
  rfl

theorem load_of_save {history : Value} (hplain : Json.Plain history) {f' : File} (h : save history f = .ok f') :
    load f' = history := by
  simp [load, File.text?_write h, Json.read_write hplain]

theorem load_congr {f' : File} (h : f'.text? = f.text?) : load f' = load f := by
  unfold load
  rw [h]

/-- A file holds the history of some clips, all of them plain. -/
def Holds (f : File) (recorded : List (String × Clip)) : Prop := load f = ofClips recorded ∧ ∀ p ∈ recorded, p.2.Plain

/-- What is recorded makes the history of one clip more. -/
theorem Holds.step {f' : File} {xs : List Entry} {x : Entry} (h : Holds f (xs.filterMap Entry.pair?)) (hx : x.clip.Plain)
    (hrecord : x.record f = .ok f') : Holds f' ((xs ++ [x]).filterMap Entry.pair?) := by
  obtain ⟨hload, hplain⟩ := h
  unfold Entry.record at hrecord
  cases hkey : x.clip.key with
  | error e =>
    rw [record_of_key_error hload hkey] at hrecord
    cases hrecord
  | ok key =>
    have hpair : (xs ++ [x]).filterMap Entry.pair? = xs.filterMap Entry.pair? ++ [(key, x.clip.stamped x.now)] := by
      simp [Entry.pair?, hkey, Except.toOption]
    have hall : ∀ p ∈ xs.filterMap Entry.pair? ++ [(key, x.clip.stamped x.now)], p.2.Plain := by
      intro p hp
      rcases List.mem_append.1 hp with hold | hnew
      · exact hplain p hold
      · rw [List.mem_singleton.1 hnew]
        exact hx.stamped x.now
    rw [record_of_load hload hkey] at hrecord
    rw [hpair]
    exact ⟨load_of_save (plain_ofClips hall) hrecord, hall⟩

/-- Whatever happens, the file holds the history of the clips recorded so far. -/
theorem load_run (h : load f = ofClips []) {es : List (File.Event Entry)} (hclips : ∀ x, .change x ∈ es → x.clip.Plain) :
    load (run f es) = ofClips (recordedIn f es) := by
  have hrun : Holds (run f es) (([] ++ f.done Entry.record es).filterMap Entry.pair?) := by
    apply File.run_induction (P := fun f xs => Holds f (xs.filterMap Entry.pair?)) (Q := fun _ x => x.clip.Plain)
    · intro f f' xs hsame hf
      exact ⟨(load_congr hsame).trans hf.1, hf.2⟩
    · intro f f' x xs hf hx hrecord
      exact hf.step hx hrecord
    · exact ⟨h, nofun⟩
    · intro p hp
      exact hclips p.2 (File.mem_of_mem_changes hp)
  rw [List.nil_append] at hrun
  exact hrun.1

/-- There is no history in the file yet: it is missing, or it cannot be read. -/
def Blank (f : File) : Prop := ∀ s, f.text? = some s → ∃ e, Json.read s = .error e

theorem load_ensure (h : Blank f) : load (ensure f) = ofClips [] := by
  have hempty : ofClips [] = empty := rfl
  cases f with
  | missing =>
    have hplain : Json.Plain (.record []) := .record List.nodup_nil nofun
    have htext : "\x7b\"clips\": \x7b\x7d\x7d" = String.ofList ('\x7b' :: ((Json.stringText "clips").toList ++
        (": ".toList ++ ((Json.valueText 0 (.record [])).toList ++ ['\x7d'])))) := by decide +kernel
    have hread := Json.read_oneField hplain "clips"
    rw [← htext] at hread
    simp [ensure, load, File.text?, hread, hempty, empty]
  | text s =>
    obtain ⟨e, he⟩ := h s rfl
    simp [ensure, load, File.text?, he, hempty]
  | locked s =>
    obtain ⟨e, he⟩ := h s rfl
    simp [ensure, load, File.text?, he, hempty]
  | directory => rfl

/-- Whatever happens to a file in which there has been no history, it answers what the clips recorded on the way come
to. A clip that cannot be recorded changes no answer, and one that has a key is recorded where the file may be written. -/
theorem run_remembers (hf : Blank f) {es : List (File.Event Entry)} (hclips : ∀ x, .change x ∈ es → x.clip.Plain) :
    Remembers (run (ensure f) es) (recordedIn (ensure f) es) ∧
      ∀ x : Entry, (∀ e, x.record (run (ensure f) es) = .error e →
          Remembers (run (ensure f) (es ++ [.change x])) (recordedIn (ensure f) es)) ∧
        ∀ key s, x.clip.key = .ok key → run (ensure f) es = .text s → ∃ f', x.record (run (ensure f) es) = .ok f' := by
  have hload := load_run (load_ensure hf) hclips
  refine ⟨remembers_of_load hload, fun x => ⟨fun e he => ?_, fun key s hkey hs => ?_⟩⟩
  · unfold run at *
    rw [File.run_concat_of_error he]
    exact remembers_of_load hload
  · rw [Entry.record, record_of_load hload hkey, hs]
    exact ⟨_, rfl⟩

section Diary

/-- A clip as it is made: of texts, with or without a time. -/
theorem plain_of_texts (sourceUrl pageId pageUrl databaseId : String) (savedAt : Option String) :
    Clip.Plain ⟨.text sourceUrl, .text pageId, .text pageUrl, .text databaseId, (savedAt.map .text).getD .null⟩ := by
  refine .record (by simp) fun p hp => ?_
  simp only [List.mem_cons, List.not_mem_nil, or_false] at hp
  rcases hp with rfl | rfl | rfl | rfl | rfl
  · exact .text sourceUrl
  · exact .text pageId
  · exact .text pageUrl
  · exact .text databaseId
  · cases savedAt with
    | none => exact .null
    | some t => exact .text t

/-- A clip of a source, one without a source that comes while the file is locked, and one of the same source again. -/
def diary : List (File.Event Entry) :=
  [.change ⟨"8:00", ⟨.text "http://h", .text "1", .text "u", .text "a", .null⟩⟩, .lock,
   .change ⟨"9:00", ⟨.text "", .text "2", .text "u", .text "b", .null⟩⟩, .unlock,
   .change ⟨"10:00", ⟨.text "http://h", .text "3", .text "u", .text "c", .text "9:30"⟩⟩]

theorem diary_remembered :
    Blank .missing ∧ (∀ x, .change x ∈ diary → x.clip.Plain) ∧
      (recordedIn (ensure .missing) diary).map (fun p => (p.1, p.2.savedAt.text?)) =
        [("http://h", some "8:00"), ("http://h", some "9:30")] ∧
      Remembers (run (ensure .missing) diary) (recordedIn (ensure .missing) diary) := by
  have hblank : Blank .missing := nofun
  have hplain : ∀ x, .change x ∈ diary → x.clip.Plain := by
    intro x h
    simp only [diary, List.mem_cons, List.not_mem_nil, or_false, File.Event.change.injEq, reduceCtorEq, false_or] at h
    rcases h with rfl | rfl | rfl
    · exact plain_of_texts _ _ _ _ none
    · exact plain_of_texts _ _ _ _ none
    · exact plain_of_texts _ _ _ _ (some _)
  exact ⟨hblank, hplain, by decide +kernel, (run_remembers hblank hplain).1⟩

end Diary

end History

end WebClip
