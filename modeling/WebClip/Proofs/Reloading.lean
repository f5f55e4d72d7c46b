import WebClip.Proofs.Configurations
import WebClip.Proofs.Fields
/-!
# Mappings that are stored and read back

An entry of a mapping is stored without the name of its property: what is read back fills the property
that the entry is kept under. Everything else is read back as it was, a source that does not count as
none, and an entry without a type not at all.
-/

namespace WebClip

variable {article : Article} {assets : Assets} {name : String} {m : FieldMapping}

/-! ## Entries that are read back -/

namespace FieldMapping

/-- Fill the property of a mapping instead, with the same value. -/
def rename (name : String) (m : FieldMapping) : Filling → Except Fault Filling
  | .filled _ property => (m.target name).map fun key => .filled key property
  | filling => .ok filling

theorem target_reloaded : (m.reloaded name).target name = .ok name := by
  have hname : (m.reloaded name).propertyName.orElse (.text name) = .text name := ite_self _
  rw [target, hname]
  rfl

theorem source_reloaded : (m.reloaded name).source article = m.source article := by
  cases hsource : m.sourceField.truthy with
  | true => simp [source, reloaded, Value.orElse, hsource]
  | false =>
    have hnull : Value.null.truthy = false := rfl
    simp [source, reloaded, Value.orElse, hsource, hnull]

/-- What is read back takes the same value and fills the property under which the mapping is kept with it. -/
theorem fill_reloaded : m.fill article assets name = (m.reloaded name).fill article assets name >>= m.rename name := by
  cases he : m.enabled.truthy with
  | false =>
    have hreloaded : (m.reloaded name).fill article assets name = .ok .nothing := fill_disabled he
    rw [fill_disabled he, hreloaded]
    rfl
  | true =>
    cases hv : m.source article with
    | error e =>
      have hbreaks : (m.reloaded name).Breaks article assets name e := .source he (source_reloaded.trans hv)
      rw [(Breaks.source he hv).fill, hbreaks.fill]
      rfl
    | ok v =>
      have henabled : (m.reloaded name).enabled.truthy = true := he
      have htype : (m.reloaded name).propertyType = m.propertyType := rfl
      rw [fill_of_source he hv, fill_of_source henabled (source_reloaded.trans hv), target_reloaded, htype]
      rcases Property.build assets m.propertyType v with e | _ | p
      · cases e <;> rfl
      · rfl
      · rfl

theorem fill_reloaded_of_target (h : m.target name = .ok name) :
    (m.reloaded name).fill article assets name = m.fill article assets name := by
  rw [fill, fill, source_reloaded, target_reloaded, h]
  rfl

/-- How a mapping of one property comes back that is stored under a name. -/
structure Reloads (name : String) (m : FieldMapping) : Prop where
  read : ofValue name m.toValue =
    if m.propertyType.truthy then .ok (m.reloaded name) else .error (.missingKey "propertyType")
  same_iff : ofValue name m.toValue = .ok m ↔ m.Storable name
  fill article assets : m.fill article assets name = (m.reloaded name).fill article assets name >>= m.rename name

theorem reloads (name : String) (m : FieldMapping) : m.Reloads name where
  read := ofValue_toValue name m
  same_iff := by
    rw [ofValue_toValue]
    constructor
    · intro h
      split at h
      next htype =>
        obtain ⟨hname, hsource⟩ := reloaded_eq_self_iff.1 (Except.ok.inj h)
        exact ⟨hname, htype, hsource⟩
      · cases h
    · rintro ⟨hname, htype, hsource⟩
      rw [if_pos htype, reloaded_eq_self_iff.2 ⟨hname, hsource⟩]
  fill _ _ := fill_reloaded

end FieldMapping

/-! ## Mappings that are read back -/

namespace Mapping

/-- Entries that are named after their properties fill the same of them when they are read back. -/
theorem properties_reloaded {m : Mapping} (h : ∀ p ∈ m, p.2.propertyType.truthy ∧ p.2.target p.1 = .ok p.1) :
    m.reloaded.properties article assets = m.properties article assets := by
  have hfill : fillings article assets m.reloaded = fillings article assets m := by
    rw [reloaded, List.filter_eq_self.2 fun p hp => (h p hp).1, fillings, fillings, List.map_map]
    exact List.map_congr_left fun p hp => congrArg (p.1, ·) (FieldMapping.fill_reloaded_of_target (h p hp).2)
  rw [properties, properties, hfill]

end Mapping

namespace Config

/-- How a mapping comes back that is stored. Each entry that has a type is read back under the name that it is kept by,
and is the same as before exactly where that is the name of its property and its source counts or is missing; from
every article it takes the same value, but fills the property of that name. That is what the configuration answers when
the mapping has been set, and it sets the same properties where each entry is kept by the name of its property. -/
theorem mapping_reloads (m : Mapping) :
    (∀ p ∈ m, p.2.Reloads p.1) ∧
      (∀ database f f', (m.map (·.1)).Nodup → setMapping database m f = .ok f' →
        Kept ((Setting.mapping database m).table f) → Agree Mapping.Alike (.ok m.reloaded) (mapping database f')) ∧
      ∀ article assets, (∀ p ∈ m, p.2.propertyType.truthy ∧ p.2.target p.1 = .ok p.1) →
        m.reloaded.properties article assets = m.properties article assets :=
  ⟨fun p _ => p.2.reloads p.1, fun _ _ _ hkeys hset hkept => mapping_own hkeys hset hkept,
    fun _ _ => Mapping.properties_reloaded⟩

/-- An entry that is not for the property of its name. -/
def labelsEntry : Value := .record
  [("property_name", .text "Labels"), ("property_type", .text "title"), ("literal_value", .text "new")]

/-- Under another name, the entry fills another property once it has been stored. -/
theorem labelsEntry_renamed : ∃ m m', FieldMapping.ofValue "Name" labelsEntry = .ok m ∧
    FieldMapping.ofValue "Name" m.toValue = .ok m' ∧ m' ≠ m ∧
      m.fill {} [] "Name" = .ok (.filled "Labels" (.title "new")) ∧
      m'.fill {} [] "Name" = .ok (.filled "Name" (.title "new")) := by
  refine ⟨_, _, rfl, rfl, fun hsame => ?_, rfl, rfl⟩
  have hname := congrArg (fun m => m.propertyName.text?) hsame
  exact absurd hname (by decide)

end Config

end WebClip
