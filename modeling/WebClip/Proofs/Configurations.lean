import WebClip.Proofs.Rewriting
import WebClip.Proofs.Sameness
import WebClip.Proofs.TomlTables
/-!
# Configurations remember what was set last

All sections of a configuration stand in one file, which every setter reads, changes and writes back as
a whole. Still each getter answers what was set last for it, or what it answered at first, whatever else
has been set in between. What is written is taken to be read back, with its keys in any order.
-/

namespace WebClip

open Value (Same Distinct)

/-! ## Mappings that are stored -/

/-- A mapping of one property that is stored as a whole: it is named after its property, it has a type, and its source
counts unless there is none. -/
structure FieldMapping.Storable (name : String) (m : FieldMapping) : Prop where
  propertyName : m.propertyName = .text name
  propertyType : m.propertyType.truthy
  sourceField : m.sourceField = .null ∨ m.sourceField.truthy

/-- What is read back of a mapping of one property that is stored under a name: the property has that name, and a source
that does not count is none. -/
def FieldMapping.reloaded (name : String) (m : FieldMapping) : FieldMapping :=
  { m with propertyName := .text name, sourceField := m.sourceField.orElse .null }

theorem FieldMapping.ofValue_toValue (name : String) (m : FieldMapping) : ofValue name m.toValue =
    if m.propertyType.truthy then .ok (m.reloaded name) else .error (.missingKey "propertyType") := by
  obtain ⟨propertyName, propertyType, sourceField, literalValue, enabled⟩ := m
  -- a source and a fixed value are stored only where there is one
  obtain ⟨literal, hvalue, hliteral⟩ : ∃ literal, toValue ⟨propertyName, propertyType, sourceField, literalValue, enabled⟩ =
      .record ([("property_type", propertyType), ("enabled", enabled)] ++
        (if sourceField.truthy then [("source_field", sourceField)] else []) ++ literal) ∧
      (literal = [] ∧ literalValue = .null ∨ literal = [("literal_value", literalValue)]) := by
    cases literalValue with
    | null => exact ⟨[], rfl, .inl ⟨rfl, rfl⟩⟩
    | _ => exact ⟨_, rfl, .inr rfl⟩
  have hnull : Value.null.truthy = false := rfl
  rw [hvalue]
  rcases hliteral with ⟨rfl, rfl⟩ | rfl <;> cases hsource : sourceField.truthy <;> cases htype : propertyType.truthy
  all_goals
    simp [ofValue, reloaded, Reply.get, Reply.getD, Reply.require, List.lookup_cons, Value.orElse, bind, Except.bind,
      pure, Except.pure, *]

theorem FieldMapping.reloaded_eq_self_iff {name : String} {m : FieldMapping} : m.reloaded name = m ↔
    m.propertyName = .text name ∧ (m.sourceField = .null ∨ m.sourceField.truthy) := by
  obtain ⟨propertyName, propertyType, sourceField, literalValue, enabled⟩ := m
  cases hsource : sourceField.truthy <;> simp [reloaded, Value.orElse, hsource, eq_comm]

/-- What is read back of stored mappings: those that have a type. -/
def Mapping.reloaded (m : Mapping) : Mapping :=
  (m.filter (·.2.propertyType.truthy)).map fun p => (p.1, p.2.reloaded p.1)

theorem Mapping.reloaded_of_storable {m : Mapping} (h : ∀ p ∈ m, p.2.Storable p.1) : m.reloaded = m := by
  rw [reloaded, List.filter_eq_self.2 fun p hp => (h p hp).propertyType]
  refine (List.map_congr_left fun p hp => ?_).trans (List.map_id' m)
  rw [FieldMapping.reloaded_eq_self_iff.2 ⟨(h p hp).propertyName, (h p hp).sourceField⟩]

namespace Config

/-! ## Getters, by what stands in their sections -/

/-- The token in a section of credentials. -/
def tokenOf (credentials : Value) : Except Fault Value := do
  Reply.getD (← Reply.getD credentials "notion" (.record [])) "api_token" (.text "")

/-- The mapping that the entries of a database describe. -/
def mappingOf (entries : Value) : Except Fault Mapping :=
  match entries with
  | .record entries => wellFormed (mappingEntries entries)
  | _ => .error Reply.notRecord

variable {f f' : File} {v w : Value}

theorem mappingOf_toValues (m : Mapping) :
    mappingOf (.record (m.map fun p => (p.1, p.2.toValue))) = .ok m.reloaded := by
  unfold mappingOf Mapping.reloaded
  induction m with
  | nil => rfl
  | cons p rest ih =>
    dsimp only at ih ⊢
    rw [List.map_cons, wellFormed_cons, FieldMapping.ofValue_toValue, ih]
    cases htype : p.2.propertyType.truthy <;> simp only [List.filter_cons, htype] <;> rfl

theorem token_eq (f : File) : token f = tokenOf (section? "credentials" f) := rfl

theorem mapping_eq (database : String) (f : File) :
    mapping database f = Reply.getD (section? "field_mappings" f) database (.record []) >>= mappingOf := by
  unfold mapping mappingTable
  cases Reply.getD (section? "field_mappings" f) database (.record []) with
  | error e => rfl
  | ok entries => cases entries <;> rfl

theorem tokenOf_same (h : Same v w) : Agree Same (tokenOf v) (tokenOf w) :=
  (Reply.getD_same h (.refl _) _).bind fun _ _ hservice => Reply.getD_same hservice (.refl _) _

theorem mappingOf_same (h : Same v w) (hv : (v.fields.map (·.1)).Nodup) (hw : (w.fields.map (·.1)).Nodup) :
    Agree Mapping.Alike (mappingOf v) (mappingOf w) := by
  cases h with
  | refl => exact Agree.refl Mapping.Alike.refl _
  | list => exact .error _
  | record hkeys hfields => exact wellFormed_same (Same.record_iff.1 (.record hkeys hfields)) hv hw

/-! ## What is read from a file holds no key twice -/

theorem distinct_load (f : File) : Distinct (.record (load f)) := by
  unfold load
  split
  next table htable =>
    obtain ⟨s, -, hs⟩ := Option.map_eq_some_iff.1 htable
    exact Toml.distinct_read hs
  · exact .nil

theorem distinct_section (key : String) (f : File) : Distinct (section? key f) := by
  unfold section?
  cases hsection : (load f).lookup key with
  | none => exact .nil
  | some v => exact (distinct_load f).of_lookup hsection

theorem nodup_fields (h : Distinct v) : (v.fields.map (·.1)).Nodup := by
  cases h with
  | record hkeys _ => exact hkeys
  | _ => exact List.nodup_nil

theorem distinct_getD (h : Distinct v) {key : String} {d e : Value} (hd : Distinct d)
    (he : Reply.getD v key d = .ok e) : Distinct e := by
  cases h with
  | @record fields hkeys hfields =>
    cases he
    cases hlookup : fields.lookup key with
    | none => exact hd
    | some v => exact (Distinct.record hkeys hfields).of_lookup hlookup
  | _ => cases he

/-! ## Setters -/

/-- There is room for mappings, so that one can be set. -/
def Roomy (f : File) : Prop := (section? "field_mappings" f).IsRecord

/-- What is to be set. -/
inductive Setting where
  | token (v : Value)
  | defaultDatabase (id : Value)
  | settings (s : Settings)
  | mapping (database : String) (m : Mapping)

namespace Setting

/-- Set it. -/
def carryOut : Setting → File → Except Fault File
  | token v, f => setToken v f
  | defaultDatabase id, f => setDefaultDatabase id f
  | settings s, f => setSettings s f
  | mapping database m, f => setMapping database m f

/-- The key under which it is set. -/
def key : Setting → String
  | token _ => "credentials"
  | defaultDatabase _ => "default_database"
  | settings _ => "settings"
  | mapping _ _ => "field_mappings"

/-- What stands under that key afterwards. -/
def value (f : File) : Setting → Value
  | token v => .record [("notion", .record [("api_token", v)])]
  | defaultDatabase id => id
  | settings s => .record s.fields
  | mapping database m => .record
      (putKey database (.record (m.map fun p => (p.1, p.2.toValue))) (section? "field_mappings" f).fields)

/-- It can be stored as it is. -/
def Storable : Setting → Prop
  | mapping _ m => (m.map (·.1)).Nodup ∧ ∀ p ∈ m, p.2.Storable p.1
  | _ => True

/-- What the getter of the token answers for it. -/
def token? : Setting → Option (Except Fault Value)
  | token v => some (.ok v)
  | _ => none

/-- What the getter of the default database answers for it. -/
def defaultDatabase? : Setting → Option Value
  | defaultDatabase id => some id
  | _ => none

/-- What the getter of the settings answers for it. -/
def settings? : Setting → Option (Except Fault Settings)
  | settings s => some (.ok s)
  | _ => none

/-- What the getter of a database's mapping answers for it. -/
def mapping? (database : String) : Setting → Option (Except Fault Mapping)
  | mapping database' m => if database' = database then some (.ok m) else none
  | _ => none

/-- The table that is written. -/
def table (f : File) (x : Setting) : Table := putKey x.key (x.value f) (load f)

variable {x : Setting}

theorem put_of_carryOut (h : x.carryOut f = .ok f') : put x.key (x.value f) f = .ok f' := by
  cases x with
  | token v => exact h
  | defaultDatabase id => exact h
  | settings s => exact h
  | mapping database m =>
    simp only [carryOut, setMapping] at h
    simp only [value]
    split at h
    next sections hsections =>
      rw [hsections]
      exact h
    · cases h

/-- Mappings are set only where there is room. -/
theorem roomy_of_carryOut {database : String} {m : Mapping} (h : (mapping database m).carryOut f = .ok f') : Roomy f := by
  simp only [carryOut, setMapping] at h
  split at h
  next sections hsections => exact ⟨sections, hsections⟩
  · cases h

end Setting

/-- A table is read back as it is written, with its keys in any order. -/
def Kept (t : Table) : Prop := ∃ t', Toml.read (Toml.write t) = .ok t' ∧ SameFields t t'

theorem sameFields_load {x : Setting} (h : x.carryOut f = .ok f') (hkept : Kept (x.table f)) :
    SameFields (x.table f) (load f') := by
  obtain ⟨t', hread, hsame⟩ := hkept
  have hload : load f' = t' := by
    rw [load, File.text?_write (Setting.put_of_carryOut h), ← Setting.table, Option.map_some, hread]
  rw [hload]
  exact hsame

section Step

variable {x : Setting} {key : String} {database : String}

/-- What is set is there afterwards. -/
theorem lookup_own (h : x.carryOut f = .ok f') (hkept : Kept (x.table f)) :
    Option.Rel Same (some (x.value f)) ((load f').lookup x.key) := by
  have hsame := sameFields_load h hkept x.key
  rwa [Setting.table, lookup_putKey_self] at hsame

/-- All else is there as before. -/
theorem lookup_other (h : x.carryOut f = .ok f') (hkept : Kept (x.table f)) (hkey : key ≠ x.key) :
    Option.Rel Same ((load f).lookup key) ((load f').lookup key) := by
  have hsame := sameFields_load h hkept key
  rwa [Setting.table, lookup_putKey_of_ne hkey] at hsame

theorem section_own (h : x.carryOut f = .ok f') (hkept : Kept (x.table f)) :
    Same (x.value f) (section? x.key f') := rel_getD (lookup_own h hkept) (.refl _)

theorem section_other (h : x.carryOut f = .ok f') (hkept : Kept (x.table f)) (hkey : key ≠ x.key) :
    Same (section? key f) (section? key f') := rel_getD (lookup_other h hkept hkey) (.refl _)

/-! ## What one setter does to each getter -/

theorem token_step (h : x.carryOut f = .ok f') (hkept : Kept (x.table f)) :
    Agree Same (x.token?.getD (token f)) (token f') := by
  cases x with
  | token v => exact tokenOf_same (section_own h hkept)
  | _ => exact tokenOf_same (section_other h hkept (by simp [Setting.key]))

theorem defaultDatabase_step (h : x.carryOut f = .ok f') (hkept : Kept (x.table f)) :
    Same (x.defaultDatabase?.getD (defaultDatabase f)) (defaultDatabase f') := by
  cases x with
  | defaultDatabase id =>
    have hsame := rel_getD (lookup_own h hkept) (.refl Value.null)
    exact hsame
  | _ => exact rel_getD (lookup_other h hkept (by simp [Setting.key])) (.refl .null)

theorem settings_step (h : x.carryOut f = .ok f') (hkept : Kept (x.table f)) :
    Agree Settings.Alike (x.settings?.getD (settings f)) (settings f') := by
  cases x with
  | settings s =>
    have hsame := Settings.ofValue_same (section_own h hkept)
    simp only [Setting.value, Settings.ofValue, Settings.ofFields_fields] at hsame
    exact hsame
  | _ => exact Settings.ofValue_same (section_other h hkept (by simp [Setting.key]))

/-- The entries of a database hold no key twice. -/
theorem nodup_entries (f : File) (database : String) (e : Value)
    (he : Reply.getD (section? "field_mappings" f) database (.record []) = .ok e) : (e.fields.map (·.1)).Nodup :=
  nodup_fields (distinct_getD (distinct_section _ f) .nil he)

/-- A mapping is read alike where the entries of its database are the same. -/
theorem mapping_agree {y : Except Fault Value} (hy : ∀ e, y = .ok e → (e.fields.map (·.1)).Nodup)
    (h : Agree Same y (Reply.getD (section? "field_mappings" f') database (.record []))) :
    Agree Mapping.Alike (y >>= mappingOf) (mapping database f') := by
  rw [mapping_eq]
  cases hread : Reply.getD (section? "field_mappings" f') database (.record []) with
  | error e =>
    rw [hread] at h
    cases h
    exact .error e
  | ok entries =>
    rw [hread] at h
    cases h with
    | ok hsame => exact mappingOf_same hsame (hy _ rfl) (nodup_entries f' database entries hread)

/-- The mapping that is set is answered as it is read back. -/
theorem mapping_own {m : Mapping} {database : String} (hkeys : (m.map (·.1)).Nodup)
    (h : (Setting.mapping database m).carryOut f = .ok f') (hkept : Kept ((Setting.mapping database m).table f)) :
    Agree Mapping.Alike (.ok m.reloaded) (mapping database f') := by
  have hown := Reply.getD_same (section_own h hkept) (.refl (.record [])) database
  obtain ⟨sections, hsections⟩ := Setting.roomy_of_carryOut h
  simp only [Setting.value, hsections, Reply.getD, Value.fields, lookup_putKey, if_true, Option.getD_some] at hown
  have hentries : ∀ e, (.ok (.record (m.map fun p => (p.1, p.2.toValue))) : Except Fault Value) = .ok e →
      (e.fields.map (·.1)).Nodup := by
    rintro e ⟨⟩
    simpa [Value.fields, Function.comp_def] using hkeys
  exact mappingOf_toValues m ▸ mapping_agree hentries hown

theorem mapping_step (hx : x.Storable) (h : x.carryOut f = .ok f') (hkept : Kept (x.table f)) (database : String) :
    Agree Mapping.Alike ((x.mapping? database).getD (mapping database f)) (mapping database f') := by
  cases x with
  | mapping database' m =>
    by_cases hdatabase : database = database'
    · subst hdatabase
      rw [Setting.mapping?, if_pos rfl]
      exact Mapping.reloaded_of_storable hx.2 ▸ mapping_own hx.1 h hkept
    · have hown := Reply.getD_same (section_own h hkept) (.refl (.record [])) database
      obtain ⟨sections, hsections⟩ := Setting.roomy_of_carryOut h
      simp only [Setting.value, hsections, Reply.getD, Value.fields, lookup_putKey, if_neg hdatabase] at hown
      have hentries := mapping_agree (fun e he => nodup_entries f database e (by rw [hsections]; exact he)) hown
      rw [Setting.mapping?, if_neg (Ne.symm hdatabase), Option.getD_none, mapping_eq, hsections]
      exact hentries
  | _ =>
    have hsection : Same (section? "field_mappings" f) (section? "field_mappings" f') :=
      section_other h hkept (by simp [Setting.key])
    have hentries := mapping_agree (nodup_entries f database) (Reply.getD_same hsection (.refl (.record [])) database)
    rwa [← mapping_eq] at hentries

theorem roomy_step (h : x.carryOut f = .ok f') (hkept : Kept (x.table f)) : Roomy f ↔ Roomy f' := by
  cases x with
  | mapping database m =>
    have hown : Same _ (section? "field_mappings" f') := section_own h hkept
    exact ⟨fun _ => hown.isRecord_iff.1 ⟨_, rfl⟩, fun _ => Setting.roomy_of_carryOut h⟩
  | _ =>
    have hsection : Same (section? "field_mappings" f) (section? "field_mappings" f') :=
      section_other h hkept (by simp [Setting.key])
    exact hsection.isRecord_iff

end Step

/-! ## What a configuration answers -/

/-- What the last of some settings says about something, or else what was so at first. -/
def last {α : Type} (pick : Setting → Option α) (initial : α) (xs : List Setting) : α :=
  xs.foldl (fun answer x => (pick x).getD answer) initial

/-- What a file answers in which these settings have been made, each at its time. -/
structure Answers (initial : File) (xs : List Setting) (f : File) : Prop where
  token : Agree Same (last Setting.token? (Config.token initial) xs) (Config.token f)
  defaultDatabase : Same (last Setting.defaultDatabase? (Config.defaultDatabase initial) xs) (Config.defaultDatabase f)
  settings : Agree Settings.Alike (last Setting.settings? (Config.settings initial) xs) (Config.settings f)
  mapping : ∀ database, Agree Mapping.Alike (last (Setting.mapping? database) (Config.mapping database initial) xs)
    (Config.mapping database f)
  /-- There is room for mappings if there was. -/
  roomy : Roomy initial ↔ Roomy f

variable {x : Setting} {initial : File} {xs : List Setting}

theorem last_concat {α : Type} (pick : Setting → Option α) (initial : α) (xs : List Setting) (x : Setting) :
    last pick initial (xs ++ [x]) = (pick x).getD (last pick initial xs) := by
  rw [last, List.foldl_append]
  rfl

/-- An answer carries over to one setting more. -/
theorem last_agree {α : Type} {R : α → α → Prop} {pick : Setting → Option α} {a b c : α} (h : R (last pick a xs) b)
    (hx : R ((pick x).getD b) c) (htrans : ∀ {a b c}, R a b → R b c → R a c) : R (last pick a (xs ++ [x])) c := by
  rw [last_concat]
  cases hpick : pick x with
  | none =>
    rw [hpick] at hx
    exact htrans h hx
  | some d =>
    rw [hpick] at hx
    exact hx

theorem Answers.refl (f : File) : Answers f [] f where
  token := Agree.refl Same.refl _
  defaultDatabase := .refl _
  settings := Agree.refl Settings.Alike.refl _
  mapping _ := Agree.refl Mapping.Alike.refl _
  roomy := Iff.rfl

/-- Files that are read alike answer alike. -/
theorem Answers.congr (h : Answers initial xs f) (hread : f'.text? = f.text?) : Answers initial xs f' := by
  have hload : load f' = load f := by
    unfold load
    rw [hread]
  have hsection : ∀ key, section? key f' = section? key f := by
    intro key
    rw [section?, section?, hload]
  constructor
  · rw [token_eq f', hsection]
    exact h.token
  · have hdefault : Config.defaultDatabase f' = Config.defaultDatabase f := by
      unfold Config.defaultDatabase
      rw [hload]
    rw [hdefault]
    exact h.defaultDatabase
  · have hsettings : Config.settings f' = Config.settings f := by
      unfold Config.settings
      rw [hsection]
    rw [hsettings]
    exact h.settings
  · intro database
    rw [mapping_eq database f', hsection, ← mapping_eq]
    exact h.mapping database
  · unfold Roomy
    rw [hsection]
    exact h.roomy

theorem Answers.step (h : Answers initial xs f) (hx : x.Storable) (hset : x.carryOut f = .ok f')
    (hkept : Kept (x.table f)) : Answers initial (xs ++ [x]) f' where
  token := last_agree h.token (token_step hset hkept) (Agree.trans · · Same.trans)
  defaultDatabase := last_agree h.defaultDatabase (defaultDatabase_step hset hkept) Same.trans
  settings := last_agree h.settings (settings_step hset hkept) (Agree.trans · · Settings.Alike.trans)
  mapping database := last_agree (h.mapping database) (mapping_step hx hset hkept database)
    (Agree.trans · · Mapping.Alike.trans)
  roomy := h.roomy.trans (roomy_step hset hkept)

/-! ## Getters that answer -/

/-- Each section that there is has the shape in which it is set: what should be a record is one. -/
structure Shaped (f : File) : Prop where
  credentials : (section? "credentials" f).IsRecord
  service : ∀ service, (section? "credentials" f).field? "notion" = some service → service.IsRecord
  settings : (section? "settings" f).IsRecord
  mappings : (section? "field_mappings" f).IsRecord
  entries : ∀ database entries, (section? "field_mappings" f).field? database = some entries →
    entries.IsRecord ∧ ∀ name entry, entries.field? name = some entry → entry.IsRecord

/-- Every getter answers. -/
structure Answering (f : File) : Prop where
  token : ∃ v, Config.token f = .ok v
  settings : ∃ s, Config.settings f = .ok s
  mapping : ∀ database, ∃ m, Config.mapping database f = .ok m

theorem exists_getD (h : v.IsRecord) (key : String) (d : Value) :
    Reply.getD v key d = .ok ((v.field? key).getD d) := by
  obtain ⟨fields, rfl⟩ := h
  rfl

theorem Shaped.answering (h : Shaped f) : Answering f := by
  constructor
  · rw [token_eq, tokenOf, exists_getD h.credentials]
    have hservice : (((section? "credentials" f).field? "notion").getD (.record [])).IsRecord := by
      cases hfield : (section? "credentials" f).field? "notion" with
      | none => exact ⟨[], rfl⟩
      | some service => exact h.service service hfield
    exact ⟨_, exists_getD hservice _ _⟩
  · obtain ⟨given, hgiven⟩ := h.settings
    exact ⟨Settings.ofFields given, by rw [Config.settings, hgiven, Settings.ofValue]⟩
  · intro database
    rw [mapping_eq, exists_getD h.mappings]
    cases hfield : (section? "field_mappings" f).field? database with
    | none => exact ⟨[], rfl⟩
    | some entries =>
      obtain ⟨⟨fields, rfl⟩, hentries⟩ := h.entries database entries hfield
      have hkeys : (fields.map (·.1)).Nodup := nodup_entries f database (.record fields) (by
        rw [exists_getD h.mappings, hfield]
        rfl)
      refine ⟨described fields, wellFormed_of_records fun p hp => ?_⟩
      exact hentries p.1 p.2 ((mem_iff_lookup hkeys).1 hp)

theorem last_ok {α : Type} {pick : Setting → Option (Except Fault α)} (hpick : ∀ x a, pick x = some a → ∃ v, a = .ok v)
    {a : Except Fault α} (ha : ∃ v, a = .ok v) (xs : List Setting) : ∃ v, last pick a xs = .ok v := by
  induction xs generalizing a with
  | nil => exact ha
  | cons x rest ih =>
    apply ih
    dsimp only
    cases hx : pick x with
    | none => exact ha
    | some b => exact hpick x b hx

/-- Where every getter has answered at first, every one still answers. -/
theorem Answers.answering (h : Answers initial xs f) (hinitial : Answering initial) : Answering f := by
  have carry : ∀ {α : Type} {R : α → α → Prop} {pick : Setting → Option (Except Fault α)} {a b : Except Fault α},
      Agree R (last pick a xs) b → (∀ x a, pick x = some a → ∃ v, a = .ok v) → (∃ v, a = .ok v) → ∃ v, b = .ok v := by
    intro α R pick a b hagree hpick ha
    obtain ⟨v, hv⟩ := last_ok hpick ha xs
    obtain ⟨w, hw, -⟩ := hagree.exists_ok hv
    exact ⟨w, hw⟩
  constructor
  · refine carry h.token ?_ hinitial.token
    intro x a hx
    cases x <;> cases hx
    exact ⟨_, rfl⟩
  · refine carry h.settings ?_ hinitial.settings
    intro x a hx
    cases x <;> cases hx
    exact ⟨_, rfl⟩
  · intro database
    refine carry (h.mapping database) ?_ (hinitial.mapping database)
    intro x a hx
    cases x with
    | mapping database' m =>
      rw [Setting.mapping?] at hx
      split at hx <;> cases hx
      exact ⟨_, rfl⟩
    | _ => cases hx

/-- Whatever is to be set can be set in a file that may be written, if there is room for mappings. -/
theorem exists_carryOut (hroom : Roomy f) {s : String} (hf : f = .missing ∨ f = .text s) (x : Setting) :
    ∃ f', x.carryOut f = .ok f' := by
  have hwrite : ∀ text, ∃ f', f.write text = .ok f' := by
    rcases hf with rfl | rfl <;> exact fun text => ⟨.text text, rfl⟩
  cases x with
  | mapping database m =>
    obtain ⟨sections, hsections⟩ := hroom
    simp only [Setting.carryOut, setMapping, hsections]
    exact hwrite _
  | _ => exact hwrite _

/-! ## Configurations over time -/

/-- The file after some settings are made, or not, and its owner does something between them. -/
abbrev run (f : File) (es : List (File.Event Setting)) : File := f.run Setting.carryOut es

/-- The settings that have been made on the way, in order. -/
abbrev made (f : File) (es : List (File.Event Setting)) : List Setting := f.done Setting.carryOut es

/-- All that is made can be stored, and every table that is written on the way is read back. -/
structure Faithful (f : File) (es : List (File.Event Setting)) : Prop where
  storable : ∀ x, .change x ∈ es → x.Storable
  kept : ∀ p ∈ f.changes Setting.carryOut es, Kept (p.2.table p.1)

theorem answers_run {es : List (File.Event Setting)} (h : Faithful f es) : Answers f (made f es) (run f es) := by
  have hrun : Answers f ([] ++ made f es) (run f es) := by
    apply File.run_induction (P := fun f' xs => Answers f xs f') (Q := fun f x => x.Storable ∧ Kept (x.table f))
    · intro f' f'' xs hread h
      exact h.congr hread
    · intro f' f'' x xs h hx hset
      exact h.step hx.1 hset hx.2
    · exact Answers.refl f
    · intro p hp
      exact ⟨h.storable p.2 (File.mem_of_mem_changes hp), h.kept p hp⟩
  rwa [List.nil_append] at hrun

/-- Whatever is set in a configuration, and whatever its owner does to the file, every getter answers what has been set
last for it, or what it answered at first. It does answer if the sections have had their shape at first, and what is to
be set then can be set where the file may be written. What cannot be set changes no answer, and the mapping of one
database leaves those of the others. -/
theorem run_answers {es : List (File.Event Setting)} (h : Faithful f es) :
    Answers f (made f es) (run f es) ∧
      (Shaped f → Answering (run f es) ∧
        ∀ s x, run f es = .missing ∨ run f es = .text s → ∃ f', Setting.carryOut x (run f es) = .ok f') ∧
      (∀ x e, Setting.carryOut x (run f es) = .error e → Answers f (made f es) (run f (es ++ [.change x]))) ∧
      ∀ database m f', (Setting.mapping database m).Storable → setMapping database m (run f es) = .ok f' →
        Kept ((Setting.mapping database m).table (run f es)) →
        ∀ other ≠ database, Agree Mapping.Alike (mapping other (run f es)) (mapping other f') := by
  have hanswers := answers_run h
  refine ⟨hanswers, fun hshaped => ⟨hanswers.answering hshaped.answering, fun s x hs => ?_⟩, fun x e he => ?_, ?_⟩
  · exact exists_carryOut (hanswers.roomy.1 hshaped.mappings) hs x
  · unfold run at *
    rw [File.run_concat_of_error he]
    exact hanswers
  · intro database m f' hm hset hkept other hother
    have hstep := mapping_step (x := .mapping database m) hm hset hkept other
    rwa [Setting.mapping?, if_neg (Ne.symm hother), Option.getD_none] at hstep

section Setup

/-- The mapping of a database, a token that is lost as the file is locked, and one that is not. -/
def setup : List (File.Event Setting) :=
  [.change (.mapping "a" [("Name", ⟨.text "Name", .text "title", .text "title", .null, .bool true⟩)]), .lock,
   .change (.token (.text "lost")), .unlock, .change (.token (.text "new"))]

theorem setup_answered : Faithful .missing setup ∧ (made .missing setup).length = 2 ∧
    Answers .missing (made .missing setup) (run .missing setup) := by
  have hround : (File.changes Setting.carryOut .missing setup).all (fun p =>
      match Toml.read (Toml.write (p.2.table p.1)) with
      | .ok t' => (Value.record (p.2.table p.1)).same? (.record t')
      | .error _ => false) = true := by
    decide +kernel
  have hfaithful : Faithful .missing setup := by
    constructor
    · intro x h
      simp only [setup, List.mem_cons, List.not_mem_nil, or_false, File.Event.change.injEq, reduceCtorEq, false_or] at h
      rcases h with rfl | rfl | rfl
      · exact ⟨by simp, by simpa using ⟨rfl, rfl, .inr rfl⟩⟩
      · trivial
      · trivial
    · intro p hp
      have hp := List.all_eq_true.1 hround p hp
      split at hp
      next t' hread => exact ⟨t', hread, Same.record_iff.1 (Value.same_of_same? hp)⟩
      next => exact (Bool.false_ne_true hp).elim
  exact ⟨hfaithful, by decide +kernel, (run_answers hfaithful).1⟩

end Setup

end Config

end WebClip
