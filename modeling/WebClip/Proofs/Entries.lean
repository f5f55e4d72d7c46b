import WebClip.Proofs.Configurations
/-!
# Entries that are passed over

Whoever edits a configuration by hand may leave anything in the place of an entry. A record without
a property type is passed over, and something is told of it; all others are read. But what is no record
at all ends the whole mapping.
-/

namespace WebClip

namespace FieldMapping

variable {name : String} {v : Value}

/-- A property type is given: under the one name it counts, or there is something under the other. -/
def isTyped (v : Value) : Bool :=
  ((v.field? "property_type").getD .null).truthy || (v.field? "propertyType").isSome

theorem exists_ofValue (hv : v.IsRecord) (h : isTyped v = true) (name : String) : ∃ m, ofValue name v = .ok m := by
  obtain ⟨fields, rfl⟩ := hv
  simp only [isTyped, Value.field?, Bool.or_eq_true] at h
  simp only [ofValue, Reply.get, Reply.getD, Reply.require, bind, Except.bind, pure, Except.pure]
  by_cases htype : ((fields.lookup "property_type").getD .null).truthy = true
  · simp [htype]
  · obtain ⟨type, hother⟩ := Option.isSome_iff_exists.1 (h.resolve_left htype)
    simp [htype, hother]

theorem ofValue_untyped (hv : v.IsRecord) (h : isTyped v = false) (name : String) :
    ofValue name v = .error (.missingKey "propertyType") := by
  obtain ⟨fields, rfl⟩ := hv
  simp only [isTyped, Value.field?, Bool.or_eq_false_iff] at h
  obtain ⟨htype, hother⟩ := h
  simp only [Option.isSome_eq_false_iff, Option.isNone_iff_eq_none] at hother
  simp [ofValue, Reply.get, Reply.getD, Reply.require, bind, Except.bind, pure, Except.pure, htype, hother]

end FieldMapping

namespace Config

open FieldMapping (isTyped)

variable {f : File} {database : String} {entries : Table}

/-- What is described by records are the entries that have a type, in order. -/
theorem described_typed (h : ∀ p ∈ entries, p.2.IsRecord) :
    List.Forall₂ (fun p q => q.1 = p.1 ∧ FieldMapping.ofValue p.1 p.2 = .ok q.2) (entries.filter (isTyped ·.2))
      (described entries) := by
  induction entries with
  | nil => exact .nil
  | cons p rest ih =>
    obtain ⟨hp, hrest⟩ := List.forall_mem_cons.1 h
    cases htyped : isTyped p.2 with
    | true =>
      obtain ⟨m, hm⟩ := FieldMapping.exists_ofValue hp htyped p.1
      simpa [described, htyped, hm, Except.toOption] using ih hrest
    | false =>
      simpa [described, htyped, FieldMapping.ofValue_untyped hp htyped, Except.toOption] using ih hrest

/-- What is told of an entry that is passed over. -/
def passedOver (name : String) : Notice :=
  .warning ("Skipping malformed field mapping '" ++ name ++ "': " ++ (Fault.missingKey "propertyType").message)

/-- The table in which the entries of a database stand. -/
theorem getD_of_entries (h : (section? "field_mappings" f).field? database = some (.record entries)) :
    Reply.getD (section? "field_mappings" f) database (.record []) = .ok (.record entries) := by
  cases hsection : section? "field_mappings" f with
  | record databases =>
    rw [hsection, Value.field?] at h
    rw [Reply.getD, h, Option.getD_some]
  | _ => simp [hsection, Value.field?] at h

theorem mapping_of_entries (h : (section? "field_mappings" f).field? database = some (.record entries)) :
    mapping database f = wellFormed (mappingEntries entries) := by
  rw [mapping_eq, getD_of_entries h]
  rfl

theorem notices_of_entries (h : (section? "field_mappings" f).field? database = some (.record entries))
    (hall : ∀ p ∈ entries, p.2.IsRecord) :
    mappingNotices database f = (entries.filter (!isTyped ·.2)).map fun p => passedOver p.1 := by
  have htable : mappingTable database f = .ok entries := by
    rw [mappingTable, getD_of_entries h]
    rfl
  rw [mappingNotices, htable]
  dsimp only
  clear htable h
  -- all entries are records, so no fault ends the telling before its last entry
  induction entries with
  | nil => rfl
  | cons p rest ih =>
    obtain ⟨hp, hrest⟩ := List.forall_mem_cons.1 hall
    have hcons : mappingEntries (p :: rest) = (p.1, FieldMapping.ofValue p.1 p.2) :: mappingEntries rest := rfl
    rw [hcons, List.takeWhile_cons, List.filter_cons]
    cases htyped : isTyped p.2 with
    | true =>
      obtain ⟨m, hm⟩ := FieldMapping.exists_ofValue hp htyped p.1
      rw [hm]
      exact ih hrest
    | false =>
      rw [FieldMapping.ofValue_untyped hp htyped]
      exact congrArg (passedOver p.1 :: ·) (ih hrest)

/-- The mapping of a database answers just when all of its entries are records, whatever else they are. It holds those
that have a type, in order and each read for itself, and something is told of every other one. An entry that is no
record ends it. -/
theorem mapping_passesOver (h : (section? "field_mappings" f).field? database = some (.record entries)) :
    ((∃ m, mapping database f = .ok m) ↔ ∀ p ∈ entries, p.2.IsRecord) ∧
      ((∃ p ∈ entries, ¬ p.2.IsRecord) → mapping database f = .error Reply.notRecord) ∧
      ∀ m, mapping database f = .ok m →
        List.Forall₂ (fun p q => q.1 = p.1 ∧ FieldMapping.ofValue p.1 p.2 = .ok q.2)
          (entries.filter (isTyped ·.2)) m ∧
        (∀ name, m.lookup name = (entries.lookup name).bind fun v => (FieldMapping.ofValue name v).toOption) ∧
        mappingNotices database f = (entries.filter (!isTyped ·.2)).map fun p => passedOver p.1 := by
  have hother (hsome : ∃ p ∈ entries, ¬ p.2.IsRecord) : mapping database f = .error Reply.notRecord := by
    rw [mapping_of_entries h, wellFormed_of_other hsome]
  have hrecords {m : Mapping} (hm : mapping database f = .ok m) : ∀ p ∈ entries, p.2.IsRecord := by
    by_contra hsome
    push Not at hsome
    rw [hother hsome] at hm
    cases hm
  refine ⟨⟨fun ⟨m, hm⟩ => hrecords hm, fun hall => ⟨described entries, ?_⟩⟩, hother, fun m hm => ?_⟩
  · rw [mapping_of_entries h, wellFormed_of_records hall]
  · have hall := hrecords hm
    have hkeys : (entries.map (·.1)).Nodup := nodup_entries f database (.record entries) (getD_of_entries h)
    rw [mapping_of_entries h, wellFormed_of_records hall] at hm
    obtain rfl := Except.ok.inj hm
    exact ⟨described_typed hall, lookup_described hkeys, notices_of_entries h hall⟩

section Edited

/-- A database with an entry whose type stands under its other name, and with one that has none. -/
def edited : File :=
  .text "[field_mappings.d.Name]\npropertyType = \"url\"\n[field_mappings.d.Tags]\n"

theorem exists_edited : ∃ entries, (section? "field_mappings" edited).field? "d" = some (.record entries) := by
  have hfields : ((section? "field_mappings" edited).field? "d").map (·.fields.length) = some 2 := by decide +kernel
  cases h : (section? "field_mappings" edited).field? "d" with
  | none => simp [h] at hfields
  | some v =>
    rw [h] at hfields
    cases v with
    | record entries => exact ⟨entries, rfl⟩
    | _ => simp [Value.fields] at hfields

/-- The entry without a type is passed over. -/
theorem edited_passesOver : ∃ entries m, (section? "field_mappings" edited).field? "d" = some (.record entries) ∧
    (∀ p ∈ entries, p.2.IsRecord) ∧ mapping "d" edited = .ok m ∧ m.map (·.1) = ["Name"] ∧
    (mappingNotices "d" edited).length = 1 ∧
      List.Forall₂ (fun p q => q.1 = p.1 ∧ FieldMapping.ofValue p.1 p.2 = .ok q.2)
        (entries.filter (isTyped ·.2)) m := by
  have hnames : (mapping "d" edited).toOption.map (·.map (·.1)) = some ["Name"] := by decide +kernel
  obtain ⟨entries, hentries⟩ := exists_edited
  cases hm : mapping "d" edited with
  | error e => simp [hm, Except.toOption] at hnames
  | ok m =>
    obtain ⟨hanswers, -, hholds⟩ := mapping_passesOver hentries
    obtain ⟨hread, -, -⟩ := hholds m hm
    rw [hm] at hnames
    exact ⟨entries, m, hentries, hanswers.1 ⟨m, hm⟩, rfl, Option.some.inj hnames, by decide +kernel, hread⟩

/-- A number among the entries ends the mapping, though there is an entry beside it that can be read. -/
theorem strayNumber_ends : (∃ m, FieldMapping.ofValue "Name" (.record [("property_type", .text "title")]) = .ok m) ∧
    (mapping "d" (.text "[field_mappings.d]\nn = 1\n[field_mappings.d.Name]\nproperty_type = \"title\"\n")).isOk =
      false :=
  ⟨⟨_, rfl⟩, by decide +kernel⟩

end Edited

end Config

end WebClip
