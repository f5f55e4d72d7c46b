import WebClip.Config
import WebClip.Proofs.Bindings
/-!
# Values with their keys in another order

A file may hold the keys of a record in another order than they were written in. Nothing that is read
from a configuration depends on that order: what two such values come to is the same again, or it is
the same fault.
-/

namespace WebClip

/-- Values that are equal up to the order of the keys in their records. -/
inductive Value.Same : Value → Value → Prop
  | refl (v : Value) : Same v v
  | list {items items' : List Value} : items.length = items'.length →
    (∀ {i : Nat} {v v' : Value}, items[i]? = some v → items'[i]? = some v' → Same v v') → Same (.list items) (.list items')
  | record {fields fields' : List (String × Value)} :
    (∀ key, (fields.lookup key).isSome = (fields'.lookup key).isSome) →
    (∀ {key : String} {v v' : Value}, fields.lookup key = some v → fields'.lookup key = some v' → Same v v') →
    Same (.record fields) (.record fields')

/-- A value is a record. -/
def Value.IsRecord (v : Value) : Prop := ∃ fields, v = .record fields

/-- Fields that hold the same under each key. -/
def SameFields (fields fields' : List (String × Value)) : Prop :=
  ∀ key, Option.Rel Value.Same (fields.lookup key) (fields'.lookup key)

/-! ## Lifted relations -/

section Lifted

variable {α β : Type} {R : α → α → Prop} {S : β → β → Prop}

/-- Two computations end in the same fault, or in related results. -/
inductive Agree (R : α → α → Prop) : Except Fault α → Except Fault α → Prop
  | ok {a b : α} : R a b → Agree R (.ok a) (.ok b)
  | error (e : Fault) : Agree R (.error e) (.error e)

theorem Agree.refl (hR : ∀ a, R a a) (x : Except Fault α) : Agree R x x := by
  cases x with
  | error e => exact .error e
  | ok a => exact .ok (hR a)

theorem Agree.trans {x y z : Except Fault α} (h : Agree R x y) (h' : Agree R y z)
    (hR : ∀ {a b c}, R a b → R b c → R a c) : Agree R x z := by
  cases h with
  | error e => exact h'
  | ok hab =>
    cases h' with
    | ok hbc => exact .ok (hR hab hbc)

theorem Agree.bind {x y : Except Fault α} {f g : α → Except Fault β} (h : Agree R x y)
    (hfg : ∀ a b, R a b → Agree S (f a) (g b)) : Agree S (x >>= f) (y >>= g) := by
  cases h with
  | error e => exact .error e
  | ok hab => exact hfg _ _ hab

/-- What ends well on one side ends well on the other. -/
theorem Agree.exists_ok {x y : Except Fault α} (h : Agree R x y) {a : α} (hx : x = .ok a) : ∃ b, y = .ok b ∧ R a b := by
  subst hx
  cases h with
  | ok hab => exact ⟨_, rfl, hab⟩

theorem Agree.toOption {x y : Except Fault α} (h : Agree R x y) : Option.Rel R x.toOption y.toOption := by
  cases h with
  | error e => exact .none
  | ok hab => exact .some hab

theorem rel_refl (hR : ∀ a, R a a) (o : Option α) : Option.Rel R o o := by
  cases o with
  | none => exact .none
  | some a => exact .some (hR a)

theorem rel_trans {o p q : Option α} (h : Option.Rel R o p) (h' : Option.Rel R p q)
    (hR : ∀ {a b c}, R a b → R b c → R a c) : Option.Rel R o q := by
  cases h with
  | none => exact h'
  | some hab =>
    cases h' with
    | some hbc => exact .some (hR hab hbc)

theorem exists_of_rel {o : Option α} {b : α} (h : Option.Rel R o (some b)) : ∃ a, o = some a ∧ R a b := by
  cases h with
  | some hab => exact ⟨_, rfl, hab⟩

theorem rel_isSome {o p : Option α} (h : Option.Rel R o p) : o.isSome = p.isSome := by
  cases h <;> rfl

theorem rel_getD {o p : Option α} (h : Option.Rel R o p) {a b : α} (hab : R a b) : R (o.getD a) (p.getD b) := by
  cases h with
  | none => exact hab
  | some h => exact h

theorem rel_bind {o p : Option α} {f g : α → Option β} (h : Option.Rel R o p)
    (hfg : ∀ a b, R a b → Option.Rel S (f a) (g b)) : Option.Rel S (o.bind f) (p.bind g) := by
  cases h with
  | none => exact .none
  | some hab => exact hfg _ _ hab

end Lifted

/-! ## Laws of sameness -/

namespace Value.Same

variable {v v' w : Value} {fields fields' : List (String × Value)} {items items' : List Value}

theorem record_iff : Same (.record fields) (.record fields') ↔ SameFields fields fields' := by
  constructor
  · intro h key
    cases h with
    | refl => exact rel_refl Same.refl _
    | record hkeys hfields =>
      have hkey := hkeys key
      cases hv : fields.lookup key <;> cases hv' : fields'.lookup key
      · exact .none
      · simp [hv, hv'] at hkey
      · simp [hv, hv'] at hkey
      · exact .some (hfields hv hv')
  · intro h
    refine .record (fun key => ?_) fun {key v v'} hv hv' => ?_
    · exact rel_isSome (h key)
    · have hkey := h key
      rw [hv, hv'] at hkey
      cases hkey with
      | some hvv' => exact hvv'

theorem symm (h : Same v w) : Same w v := by
  induction h with
  | refl v => exact .refl v
  | list hlen _ ih => exact .list hlen.symm fun hv hw => ih hw hv
  | record hkeys _ ih => exact .record (fun key => (hkeys key).symm) fun hv hw => ih hw hv

theorem trans {u : Value} (h : Same u v) (h' : Same v w) : Same u w := by
  induction h generalizing w with
  | refl => exact h'
  | list hlen hitems ih =>
    cases h' with
    | refl => exact .list hlen hitems
    | list hlen' hitems' =>
      refine .list (hlen.trans hlen') fun {i a c} ha hc => ?_
      obtain ⟨hi, -⟩ := List.getElem?_eq_some_iff.1 ha
      have hb := List.getElem?_eq_getElem (hlen ▸ hi)
      exact ih ha hb (hitems' hb hc)
  | record hkeys hfields ih =>
    cases h' with
    | refl => exact .record hkeys hfields
    | record hkeys' hfields' =>
      -- the value in the middle is there, as the key is in all three records
      refine .record (fun key => (hkeys key).trans (hkeys' key)) fun {key a c} ha hc => ?_
      have hb := hkeys key
      rw [ha, Option.isSome_some, eq_comm, Option.isSome_iff_exists] at hb
      obtain ⟨b, hb⟩ := hb
      exact ih ha hb (hfields' hb hc)

/-- A record is the same as records only. -/
theorem isRecord_iff (h : Same v w) : v.IsRecord ↔ w.IsRecord := by
  cases h with
  | refl => rfl
  | list => exact ⟨nofun, nofun⟩
  | record => exact ⟨fun _ => ⟨_, rfl⟩, fun _ => ⟨_, rfl⟩⟩

theorem truthy_eq (h : Same v w) : v.truthy = w.truthy := by
  have hempty : ∀ {a b : List (String × Value)}, (∀ key, (a.lookup key).isSome = (b.lookup key).isSome) →
      b.isEmpty = true → a.isEmpty = true := by
    intro a b hkeys hb
    rw [List.isEmpty_iff] at hb
    subst hb
    cases a with
    | nil => rfl
    | cons p rest => simpa using hkeys p.1
  cases h with
  | refl => rfl
  | list hlen _ =>
    rw [truthy, truthy, Bool.not_inj_iff, Bool.eq_iff_iff, List.isEmpty_iff_length_eq_zero, List.isEmpty_iff_length_eq_zero,
      hlen]
  | record hkeys _ =>
    rw [truthy, truthy, Bool.not_inj_iff, Bool.eq_iff_iff]
    exact ⟨hempty fun key => (hkeys key).symm, hempty hkeys⟩

theorem orElse {d d' : Value} (h : Same v w) (hd : Same d d') : Same (v.orElse d) (w.orElse d') := by
  unfold Value.orElse
  rw [h.truthy_eq]
  split
  · exact h
  · exact hd

end Value.Same

theorem SameFields.symm {fields fields' : List (String × Value)} (h : SameFields fields fields') :
    SameFields fields' fields := Value.Same.record_iff.1 (Value.Same.record_iff.2 h).symm

open Value (Same)

variable {v w d d' : Value}

namespace Reply

theorem getD_same (h : Same v w) (hd : Same d d') (key : String) : Agree Same (getD v key d) (getD w key d') := by
  cases h with
  | refl =>
    unfold getD
    split
    · exact .ok (rel_getD (rel_refl Same.refl _) hd)
    · exact .error _
  | list => exact .error notRecord
  | record hkeys hfields => exact .ok (rel_getD (Same.record_iff.1 (.record hkeys hfields) key) hd)

theorem get_same (h : Same v w) (key : String) : Agree Same (get v key) (get w key) := getD_same h (.refl .null) key

theorem require_same (h : Same v w) (key : String) : Agree Same (require v key) (require w key) := by
  cases h with
  | refl => exact Agree.refl Same.refl _
  | list => exact .error _
  | record hkeys hfields =>
    have hkey := Same.record_iff.1 (.record hkeys hfields) key
    unfold require
    dsimp only
    revert hkey
    generalize List.lookup key _ = o
    generalize List.lookup key _ = p
    intro hkey
    cases hkey with
    | none => exact .error _
    | some hv => exact .ok hv

end Reply

/-! ## Sameness that can be computed -/

mutual

/-- Whether values without floating-point numbers are the same. -/
def Value.same? : Value → Value → Bool
  | .null, .null => true
  | .bool b, .bool b' => b == b'
  | .int n, .int n' => n == n'
  | .text s, .text s' => s == s'
  | .shown s, .shown s' => s == s'
  | .list items, .list items' => sameItems? items items'
  | .record fields, .record fields' => sameFields? fields fields' && fields'.all fun p => hasKey p.1 fields
  | _, _ => false

/-- Whether the items of two lists are the same each. -/
def sameItems? : List Value → List Value → Bool
  | [], [] => true
  | v :: items, v' :: items' => v.same? v' && sameItems? items items'
  | _, _ => false

/-- Whether each field is the same in other fields. -/
def sameFields? : List (String × Value) → List (String × Value) → Bool
  | [], _ => true
  | (key, v) :: rest, fields' =>
    (match fields'.lookup key with
      | some v' => v.same? v'
      | none => false) && sameFields? rest fields'

end

mutual

theorem Value.same_of_same? : ∀ {v w : Value}, v.same? w = true → Same v w
  | .null, .null, _ => .refl _
  | .bool b, .bool b', h => by
    obtain rfl : b = b' := by simpa [Value.same?] using h
    exact .refl _
  | .int n, .int n', h => by
    obtain rfl : n = n' := by simpa [Value.same?] using h
    exact .refl _
  | .text s, .text s', h => by
    obtain rfl : s = s' := by simpa [Value.same?] using h
    exact .refl _
  | .shown s, .shown s', h => by
    obtain rfl : s = s' := by simpa [Value.same?] using h
    exact .refl _
  | .list items, .list items', h => by
    rw [Value.same?] at h
    exact .list (same_of_sameItems? h).1 (same_of_sameItems? h).2
  | .record fields, .record fields', h => by
    rw [Value.same?, Bool.and_eq_true] at h
    refine Same.record_iff.2 fun key => ?_
    cases hv : fields.lookup key with
    | some v =>
      obtain ⟨v', hv', hsame⟩ := same_of_sameFields? h.1 (key, v) (mem_of_lookup hv)
      exact hv' ▸ .some hsame
    | none =>
      have hnone : fields'.lookup key = none := by
        by_contra hsome
        obtain ⟨p, hp, rfl⟩ := List.mem_map.1 (mem_keys_iff_lookup.2 hsome)
        exact mem_keys_iff_lookup.1 (mem_keys_iff_hasKey.2 (List.all_eq_true.1 h.2 p hp)) hv
      rw [hnone]
      exact .none

theorem same_of_sameItems? : ∀ {items items' : List Value}, sameItems? items items' = true → items.length = items'.length ∧
    ∀ {i : Nat} {v v' : Value}, items[i]? = some v → items'[i]? = some v' → Same v v'
  | [], [], _ => ⟨rfl, nofun⟩
  | v :: items, v' :: items', h => by
    rw [sameItems?, Bool.and_eq_true] at h
    obtain ⟨hlen, hitems⟩ := same_of_sameItems? h.2
    refine ⟨by simp [hlen], fun {i w w'} hw hw' => ?_⟩
    cases i with
    | zero =>
      cases hw
      cases hw'
      exact Value.same_of_same? h.1
    | succ i => exact hitems hw hw'

theorem same_of_sameFields? : ∀ {fields fields' : List (String × Value)}, sameFields? fields fields' = true →
    ∀ p ∈ fields, ∃ v', fields'.lookup p.1 = some v' ∧ Same p.2 v'
  | [], _, _ => nofun
  | (key, v) :: rest, fields', h => by
    rw [sameFields?, Bool.and_eq_true] at h
    refine List.forall_mem_cons.2 ⟨?_, same_of_sameFields? h.2⟩
    dsimp only
    cases hv : fields'.lookup key with
    | none => 
      rw [hv] at h
      exact (Bool.false_ne_true h.1).elim
    | some v' =>
      rw [hv] at h
      exact ⟨v', rfl, Value.same_of_same? h.1⟩

end

/-! ## Settings -/

namespace Settings

/-- Settings that are the same each. -/
def Alike (s s' : Settings) : Prop := SameFields s.fields s'.fields

theorem Alike.refl (s : Settings) : Alike s s := Same.record_iff.1 (.refl _)

theorem Alike.trans {s s' s'' : Settings} (h : Alike s s') (h' : Alike s' s'') : Alike s s'' :=
  fun key => rel_trans (h key) (h' key) Same.trans

theorem fields_ofFields (given : List (String × Value)) :
    (ofFields given).fields = (fields {}).map fun p => (p.1, (given.lookup p.1).getD p.2) := rfl

/-- The settings that a record of settings gives are those. -/
theorem ofFields_fields (s : Settings) : ofFields s.fields = s := by
  simp [ofFields, fields, List.lookup_cons]

theorem ofValue_same (h : Same v w) : Agree Alike (ofValue v) (ofValue w) := by
  cases h with
  | refl => exact Agree.refl Alike.refl _
  | list => exact .error _
  | @record given given' hkeys hfields =>
    refine .ok fun key => ?_
    rw [fields_ofFields, fields_ofFields, lookup_mapWithKey fun key v => (given.lookup key).getD v,
      lookup_mapWithKey fun key v => (given'.lookup key).getD v]
    cases (fields {}).lookup key with
    | none => exact .none
    | some v => exact .some (rel_getD (Same.record_iff.1 (.record hkeys hfields) key) (.refl v))

end Settings

/-! ## Mappings -/

namespace FieldMapping

/-- Mappings of one property whose parts are the same each. -/
structure Alike (m m' : FieldMapping) : Prop where
  propertyName : Same m.propertyName m'.propertyName
  propertyType : Same m.propertyType m'.propertyType
  sourceField : Same m.sourceField m'.sourceField
  literalValue : Same m.literalValue m'.literalValue
  enabled : Same m.enabled m'.enabled

theorem Alike.refl (m : FieldMapping) : Alike m m := ⟨.refl _, .refl _, .refl _, .refl _, .refl _⟩

theorem Alike.trans {m m' m'' : FieldMapping} (h : Alike m m') (h' : Alike m' m'') : Alike m m'' where
  propertyName := h.propertyName.trans h'.propertyName
  propertyType := h.propertyType.trans h'.propertyType
  sourceField := h.sourceField.trans h'.sourceField
  literalValue := h.literalValue.trans h'.literalValue
  enabled := h.enabled.trans h'.enabled

theorem ofValue_same (h : Same v w) (name : String) : Agree Alike (ofValue name v) (ofValue name w) := by
  have firstOf : ∀ a b, Agree Same (do pure ((← Reply.get v a).orElse (← Reply.get v b)))
      (do pure ((← Reply.get w a).orElse (← Reply.get w b))) := fun a b =>
    (Reply.get_same h a).bind fun _ _ ha => (Reply.get_same h b).bind fun _ _ hb => .ok (ha.orElse hb)
  unfold ofValue
  dsimp only
  refine (firstOf _ _).bind fun x x' hx => ?_
  refine (Reply.get_same h _).bind fun type type' htype => ?_
  -- Wherever the type comes from, the parts behind it are read alike.
  have hrest : ∀ kind kind', Same kind kind' → Agree Alike
      (do pure ⟨x.orElse (.text name), kind, ← (do pure ((← Reply.get v "source_field").orElse (← Reply.get v "sourceField"))),
        ← Reply.getD v "literal_value" (← Reply.get v "customValue"),
        ← Reply.getD v "enabled" (← Reply.getD v "isEnabled" (.bool true))⟩)
      (do pure ⟨x'.orElse (.text name), kind', ← (do pure ((← Reply.get w "source_field").orElse (← Reply.get w "sourceField"))),
        ← Reply.getD w "literal_value" (← Reply.get w "customValue"),
        ← Reply.getD w "enabled" (← Reply.getD w "isEnabled" (.bool true))⟩) := by
    intro kind kind' hkind
    refine (firstOf _ _).bind fun source source' hsource => ?_
    refine (Reply.get_same h _).bind fun custom custom' hcustom => ?_
    refine (Reply.getD_same h hcustom _).bind fun literal literal' hliteral => ?_
    refine (Reply.getD_same h (.refl _) _).bind fun usual usual' husual => ?_
    refine (Reply.getD_same h husual _).bind fun enabled enabled' henabled => ?_
    exact .ok ⟨hx.orElse (.refl _), hkind, hsource, hliteral, henabled⟩
  rw [htype.truthy_eq]
  split
  · exact hrest _ _ htype
  · exact (Reply.require_same h _).bind hrest

/-- A mapping is read from a record only. -/
theorem ofValue_other (h : ¬ v.IsRecord) (name : String) : ofValue name v = .error Reply.notRecord := by
  cases v with
  | record fields => exact (h ⟨fields, rfl⟩).elim
  | _ => rfl

/-- A record without a type is passed over. -/
theorem isSkipped_of_record {name : String} {e : Fault} (hv : v.IsRecord) (h : ofValue name v = .error e) :
    Config.isSkipped e = true := by
  obtain ⟨fields, rfl⟩ := hv
  have hget : ∀ key d, Reply.getD (.record fields) key d = .ok ((fields.lookup key).getD d) := fun _ _ => rfl
  simp only [ofValue, Reply.get, hget, Reply.require, bind, Except.bind, pure, Except.pure] at h
  split at h
  · cases h
  · cases htype : fields.lookup "propertyType" with
    | some type =>
      rw [htype] at h
      cases h
    | none =>
      rw [htype] at h
      cases h
      rfl

end FieldMapping

namespace Mapping

/-- Mappings that fill the same properties alike. -/
def Alike (m m' : Mapping) : Prop := ∀ name, Option.Rel FieldMapping.Alike (m.lookup name) (m'.lookup name)

theorem Alike.refl (m : Mapping) : Alike m m := fun _ => rel_refl FieldMapping.Alike.refl _

theorem Alike.trans {m m' m'' : Mapping} (h : Alike m m') (h' : Alike m' m'') : Alike m m'' :=
  fun name => rel_trans (h name) (h' name) FieldMapping.Alike.trans

end Mapping

namespace Config

variable {entries entries' : Table}

/-- The mappings that the entries describe. -/
def described (entries : Table) : Mapping :=
  entries.filterMap fun p => (FieldMapping.ofValue p.1 p.2).toOption.map fun m => (p.1, m)

theorem wellFormed_cons (name : String) (v : Value) (rest : Table) : wellFormed (mappingEntries ((name, v) :: rest)) =
    match FieldMapping.ofValue name v with
    | .ok m => (wellFormed (mappingEntries rest)).map fun ms => (name, m) :: ms
    | .error e => if isSkipped e then wellFormed (mappingEntries rest) else .error e := by
  unfold wellFormed mappingEntries
  rw [List.map_cons, List.filterMapM_cons]
  dsimp only
  cases FieldMapping.ofValue name v with
  | ok m => rfl
  | error e =>
    dsimp only
    split <;> rfl

theorem wellFormed_of_records (h : ∀ p ∈ entries, p.2.IsRecord) :
    wellFormed (mappingEntries entries) = .ok (described entries) := by
  induction entries with
  | nil => rfl
  | cons p rest ih =>
    obtain ⟨name, v⟩ := p
    obtain ⟨⟨fields, hfields⟩, hrest⟩ := List.forall_mem_cons.1 h
    rw [wellFormed_cons, ih hrest]
    cases hm : FieldMapping.ofValue name v with
    | ok m => simp [described, hm, Except.map, Except.toOption]
    | error e =>
      have hskip : isSkipped e = true := FieldMapping.isSkipped_of_record ⟨fields, hfields⟩ hm
      simp [described, hm, hskip, Except.toOption]

/-- An entry that is no record ends everything. -/
theorem wellFormed_of_other (h : ∃ p ∈ entries, ¬ p.2.IsRecord) :
    wellFormed (mappingEntries entries) = .error Reply.notRecord := by
  induction entries with
  | nil =>
    obtain ⟨p, hp, -⟩ := h
    cases hp
  | cons p rest ih =>
    obtain ⟨name, v⟩ := p
    rw [wellFormed_cons]
    by_cases hv : v.IsRecord
    · have hrest : ∃ p ∈ rest, ¬ p.2.IsRecord := by
        obtain ⟨q, hq, hother⟩ := h
        rcases List.mem_cons.1 hq with rfl | hmem
        · exact (hother hv).elim
        · exact ⟨q, hmem, hother⟩
      rw [ih hrest]
      cases hm : FieldMapping.ofValue name v with
      | ok m => rfl
      | error e => simp [FieldMapping.isSkipped_of_record hv hm]
    · rw [FieldMapping.ofValue_other hv]
      rfl

theorem lookup_described (h : (entries.map (·.1)).Nodup) (name : String) :
    (described entries).lookup name = (entries.lookup name).bind fun v => (FieldMapping.ofValue name v).toOption :=
  lookup_filterMap (fun name v => (FieldMapping.ofValue name v).toOption) h name

theorem isRecord_of_same (h : SameFields entries entries') (hkeys : (entries.map (·.1)).Nodup)
    (hkeys' : (entries'.map (·.1)).Nodup) (hall : ∀ p ∈ entries, p.2.IsRecord) : ∀ p ∈ entries', p.2.IsRecord := by
  intro p hp
  have hrel := h p.1
  rw [(mem_iff_lookup hkeys').1 hp] at hrel
  obtain ⟨v, hv, hsame⟩ := exists_of_rel hrel
  exact hsame.isRecord_iff.1 (hall (p.1, v) ((mem_iff_lookup hkeys).2 hv))

theorem wellFormed_same (h : SameFields entries entries') (hkeys : (entries.map (·.1)).Nodup)
    (hkeys' : (entries'.map (·.1)).Nodup) :
    Agree Mapping.Alike (wellFormed (mappingEntries entries)) (wellFormed (mappingEntries entries')) := by
  have hrecords : (∀ p ∈ entries, p.2.IsRecord) ↔ ∀ p ∈ entries', p.2.IsRecord :=
    ⟨isRecord_of_same h hkeys hkeys', isRecord_of_same h.symm hkeys' hkeys⟩
  by_cases hall : ∀ p ∈ entries, p.2.IsRecord
  · rw [wellFormed_of_records hall, wellFormed_of_records (hrecords.1 hall)]
    refine .ok fun name => ?_
    rw [lookup_described hkeys, lookup_described hkeys']
    exact rel_bind (h name) fun v v' hv => (FieldMapping.ofValue_same hv name).toOption
  · have hall' := mt hrecords.2 hall
    push Not at hall hall'
    rw [wellFormed_of_other hall, wellFormed_of_other hall']
    exact .error _

end Config

end WebClip
