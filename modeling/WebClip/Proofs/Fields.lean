import WebClip.Mapping
import WebClip.Proofs.Bindings
import WebClip.Proofs.Requests
import WebClip.Proofs.Trimming
/-!
# How the properties of a page are filled

A value that a property cannot hold is refused and only leaves its own property out. Beside that
filling a property breaks on few values: a whole number too large for a floating-point number,
and one that is to be written out but has too many digits. A number is set just as it is read,
whether it is finite or not.
-/

namespace WebClip

namespace Value

theorem written_of_writable {v : Value} (h : v.isWritable = true) : v.written = .ok v.display := if_pos h

theorem written_of_unwritable {v : Value} (h : v.isWritable = false) : v.written = .error unwritable := by
  simp [written, h]

theorem isWritable_of_written {v : Value} {s : String} (h : v.written = .ok s) : v.isWritable = true := by
  cases hv : v.isWritable with
  | true => rfl
  | false =>
    rw [written_of_unwritable hv] at h
    cases h

theorem writtenQuoted_of_writable {v : Value} (h : v.isWritable = true) : v.writtenQuoted = .ok v.quoted := if_pos h

theorem writtenQuoted_of_unwritable {v : Value} (h : v.isWritable = false) : v.writtenQuoted = .error unwritable := by
  simp [writtenQuoted, h]

/-- Whether a value is a whole number too large for a floating-point number. -/
def isHuge : Value → Bool
  | int n => (Number.ofInt? n).isNone
  | _ => false

theorem isHuge_int (n : Int) : (int n).isHuge = (Number.ofInt? n).isNone := rfl

/-- Why a whole number is too large. -/
def tooHuge : Fault := .overflow "int too large to convert to float"

theorem toFloat_of_huge {v : Value} (h : v.isHuge = true) : v.toFloat = .error tooHuge := by
  cases v with
  | int n =>
    rw [isHuge_int, Option.isNone_iff_eq_none] at h
    rw [toFloat, h, tooHuge]
  | _ => cases h

theorem toFloat_of_not_huge {v : Value} (h : v.isHuge = false) (m : String) : v.toFloat ≠ .error (.overflow m) := by
  cases v with
  | int n =>
    rw [isHuge_int, Option.isNone_eq_false_iff, Option.isSome_iff_exists] at h
    obtain ⟨x, hx⟩ := h
    rw [toFloat, hx]
    nofun
  | text s =>
    rw [toFloat]
    cases Number.readFloat s.toList <;> nofun
  | _ => nofun

end Value

namespace Property

open Text

/-! ## Values on which a property breaks -/

/-- Which fault it is when only writing something out can fail. -/
def unlessWritten (writable : Bool) : Option Fault := if writable then none else some Value.unwritable

/-- The values that are written out on the way to a property of a type. -/
def spelled (type value : Value) : List Value :=
  match type.text?.getD "" with
  | "title" | "rich_text" | "url" | "files" | "date" | "email" | "phone_number" => [value]
  | "select" => [(options value).headD .null]
  | "multi_select" => options value
  | "number" => if value.toFloat.isOk then [] else [value]
  | _ => [type]

/-- The fault with which a property of a type breaks on a value, if it does. -/
def fault? (type value : Value) : Option Fault :=
  if type.text? = some "checkbox" || isNothing value then none
  else if type.text? = some "number" && value.isHuge then some Value.tooHuge
  else unlessWritten ((spelled type value).all Value.isWritable)

/-- What breaks on a value does so with a fault, and what does not break is settled. -/
def Decided {α : Type} (fault : Option Fault) (r : Except Fault α) : Prop :=
  match fault with
  | some f => r = .error f
  | none => Settled r

theorem Decided.bind {α β : Type} {fault : Option Fault} {r : Except Fault α} {f : α → Except Fault β}
    (hr : Decided fault r) (hf : ∀ x, r = .ok x → Settled (f x)) : Decided fault (r >>= f) := by
  cases fault with
  | some e =>
    obtain rfl : r = .error e := hr
    rfl
  | none => exact Settled.bind hr hf

theorem decided_written (v : Value) : Decided (unlessWritten v.isWritable) v.written := by
  cases h : v.isWritable with
  | true => exact Value.written_of_writable h ▸ .ok _
  | false => exact Value.written_of_unwritable h

theorem decided_writtenQuoted (v : Value) : Decided (unlessWritten v.isWritable) v.writtenQuoted := by
  cases h : v.isWritable with
  | true => exact Value.writtenQuoted_of_writable h ▸ .ok _
  | false => exact Value.writtenQuoted_of_unwritable h

theorem decided_optionName (v : Value) : Decided (unlessWritten v.isWritable) (optionName v) := by
  refine (decided_written v).bind fun text _ => ?_
  dsimp only
  split
  · exact .clip _
  · exact .ok _

/-- What is written and not blank names an option. -/
theorem optionName_ne_error {v : Value} (h : v.isWritable = true) (hblank : blank v.display = false) (f : Fault) :
    optionName v ≠ .error f := by
  have hname : (strip v.display).isEmpty = false := by
    rw [Bool.eq_false_iff]
    intro hempty
    rw [blank_of_strip hempty] at hblank
    cases hblank
  simp only [optionName, Value.written_of_writable h, bind, Except.bind, hname, Bool.false_eq_true, if_false]
  nofun

theorem decided_optionNames (vs : List Value) : Decided (unlessWritten (vs.all Value.isWritable)) (optionNames vs) := by
  fun_induction optionNames vs with
  | case1 => exact .ok _
  | case2 rest ih => exact ih
  | case3 v rest hv ih =>
    rw [List.all_cons]
    cases h : v.isWritable with
    | false =>
      rw [Value.written_of_unwritable h]
      rfl
    | true =>
      -- the value itself is written, so the rest of the values decides
      rw [Value.written_of_writable h]
      change Decided (unlessWritten (rest.all Value.isWritable)) (if Text.blank v.display = true then _ else _)
      cases hblank : Text.blank v.display with
      | true => exact ih
      | false =>
        simp only [Bool.false_eq_true, if_false]
        cases hone : optionName v with
        | ok name => exact ih.bind fun names _ => .ok _
        | error f => exact absurd hone (optionName_ne_error h hblank f)

theorem settled_file (asset : Asset) : Settled (file asset) := by
  unfold file
  split
  · exact .ok _
  · exact .clip _

theorem decided_numberOf (v : Value) :
    Decided (if v.isHuge then some Value.tooHuge else unlessWritten ((if v.toFloat.isOk then [] else [v]).all Value.isWritable))
      (numberOf v) := by
  unfold numberOf
  cases hhuge : v.isHuge with
  | true =>
    rw [Value.toFloat_of_huge hhuge]
    rfl
  | false =>
    cases hx : v.toFloat with
    | ok x => exact .ok _
    | error f =>
      have hquoted := (decided_writtenQuoted v).bind (f := fun text => throw (refused ("Not a number: " ++ text)))
        fun text _ => Settled.clip (α := Option Property) _
      cases f with
      | overflow m => exact absurd hx (Value.toFloat_of_not_huge hhuge m)
      | _ => simpa [Except.isOk, Except.toBool] using hquoted

/-- Whatever its type, a property breaks on a value just as told. -/
theorem build_decided (assets : Assets) (type value : Value) : Decided (fault? type value) (build assets type value) := by
  unfold build fault?
  by_cases hbox : type.text? = some "checkbox"
  · simp only [hbox, if_true, decide_true, Bool.true_or]
    exact .ok _
  by_cases hnothing : isNothing value = true
  · simp only [hbox, hnothing, if_true, Bool.or_true, if_false]
    exact .ok _
  simp only [hbox, hnothing, Bool.or_false, decide_false, if_false, Bool.false_eq_true]
  by_cases hnumber : type.text? = some "number"
  · simp only [hnumber, decide_true, Bool.true_and, spelled, Option.getD_some]
    exact decided_numberOf value
  simp only [hnumber, decide_false, Bool.false_and, if_false, Bool.false_eq_true]
  obtain ⟨kind, hkind⟩ : ∃ kind, type.text?.getD "" = kind := ⟨_, rfl⟩
  simp only [spelled, hkind]
  split
  all_goals (try simp only [List.all_cons, List.all_nil, Bool.and_true])
  · exact (decided_written value).bind fun text _ => .ok _
  · exact (decided_written value).bind fun text _ => .ok _
  · refine (decided_written value).bind fun text _ => ?_
    split
    · exact .clip _
    · exact .ok _
  · exact (decided_written value).bind fun text _ => settled_file _
  · exact (decided_written value).bind fun text _ => .ok _
  · refine (decided_written value).bind fun text htext => ?_
    split
    · exact .ok _
    · rw [Value.writtenQuoted_of_writable (Value.isWritable_of_written htext)]
      exact .clip _
  · exact (decided_written value).bind fun text _ => .ok _
  · exact (decided_optionName _).bind fun text _ => .ok _
  · exact (decided_optionNames _).bind fun text _ => .ok _
  · cases htype : type.text? <;> simp_all
  · exact (decided_written type).bind fun text _ => .clip _

theorem of_fault? {type value : Value} {f : Fault} (h : fault? type value = some f) :
    f = Value.tooHuge ∨ f = Value.unwritable := by
  unfold fault? unlessWritten at h
  repeat' split at h
  all_goals simp_all

theorem options_writable {value : Value} (h : value.isWritable = true) : (options value).all Value.isWritable = true := by
  cases value with
  | list items =>
    rw [Value.isWritable] at h
    change items.all Value.isWritable = true
    induction items with
    | nil => rfl
    | cons v rest ih =>
      rw [Value.areWritable, Bool.and_eq_true_iff] at h
      rw [List.all_cons, h.1, ih h.2]
      rfl
  | _ => simpa [options] using h

/-- Nothing breaks on a value that is not huge, where it and its type can be written out. -/
theorem fault?_of_writable {type value : Value} (hhuge : value.isHuge = false) (htype : type.isWritable = true)
    (hvalue : value.isWritable = true) : fault? type value = none := by
  have hspelled : (spelled type value).all Value.isWritable = true := by
    have hoptions := options_writable hvalue
    unfold spelled
    split
    case h_8 =>
      cases hfirst : options value with
      | nil => rfl
      | cons v rest =>
        rw [hfirst, List.all_cons, Bool.and_eq_true_iff] at hoptions
        simpa using hoptions.1
    case h_9 => exact hoptions
    case h_10 => split <;> simp [hvalue]
    all_goals simp [hvalue, htype]
  simp [fault?, hhuge, hspelled, unlessWritten]

theorem build_of_fault? {assets : Assets} {type value : Value} {f : Fault} (h : fault? type value = some f) :
    build assets type value = .error f := by
  have hd := build_decided assets type value
  rw [h] at hd
  exact hd

/-- A fault of a property is the one told or an error of the clipper's own. -/
theorem fault?_of_build {assets : Assets} {type value : Value} {f : Fault} (h : build assets type value = .error f) :
    fault? type value = some f ∨ ∃ e, f = .clip e := by
  have hd := build_decided assets type value
  rw [h] at hd
  cases hf : fault? type value with
  | none =>
    rw [hf] at hd
    exact .inr (hd f rfl)
  | some g =>
    rw [hf] at hd
    cases hd
    exact .inl rfl

/-- What is done with a result gives no number if it gives none with any. -/
theorem ne_number {α : Type} {r : Except Fault α} {f : α → Except Fault (Option Property)} {x : Float}
    (hf : ∀ y, f y ≠ .ok (some (.number x))) : r >>= f ≠ .ok (some (.number x)) := by
  cases r with
  | error e => nofun
  | ok y => exact hf y

/-- A number is set as the value reads as one. -/
theorem number_of_build {assets : Assets} {type value : Value} {x : Float}
    (h : build assets type value = .ok (some (.number x))) :
    type.text? = some "number" ∧ value.toFloat = .ok x := by
  unfold build at h
  split at h
  · cases h
  split at h
  · cases h
  split at h
  case h_8 heq =>
    have htype : type.text? = some "number" := by
      cases ht : type.text? <;> simp_all
    unfold numberOf at h
    split at h
    · cases h
      exact ⟨htype, ‹_›⟩
    · cases h
    · exact absurd h (ne_number fun _ => nofun)
  all_goals refine absurd h (ne_number fun y => ?_)
  case h_3 => split <;> nofun
  case h_4 =>
    unfold file
    split <;> nofun
  case h_6 => split <;> nofun
  case h_9 =>
    split
    · nofun
    · exact ne_number fun _ => nofun
  all_goals nofun

end Property

/-! ## Entries of a mapping -/

namespace FieldMapping

/-- How an entry breaks the filling of all properties. -/
inductive Breaks (article : Article) (assets : Assets) (name : String) (m : FieldMapping) : Fault → Prop
  /-- The field that it names is no text. -/
  | source {f : Fault} : m.enabled.truthy = true → m.source article = .error f → Breaks article assets name m f
  /-- Its property breaks on the value. -/
  | value {v : Value} {f : Fault} : m.enabled.truthy = true → m.source article = .ok v →
    Property.fault? m.propertyType v = some f → Breaks article assets name m f
  /-- A value is set, but the name of its property is none. -/
  | target {v : Value} {p : Property} {f : Fault} : m.enabled.truthy = true → m.source article = .ok v →
    Property.build assets m.propertyType v = .ok (some p) → m.target name = .error f → Breaks article assets name m f

/-- An entry whose texts are texts. -/
structure Typed (m : FieldMapping) : Prop where
  name : ∃ s, m.propertyName = .text s
  source : m.sourceField = .null ∨ ∃ s, m.sourceField = .text s

variable {article : Article} {assets : Assets} {name : String} {m : FieldMapping}

/-- Such an entry breaks only where its property breaks on the value. -/
theorem Breaks.of_typed {f : Fault} (h : m.Breaks article assets name f) (ht : m.Typed) :
    ∃ v, m.source article = .ok v ∧ Property.fault? m.propertyType v = some f := by
  obtain ⟨⟨s, hname⟩, hsource⟩ := ht
  cases h with
  | source _ hf =>
    rcases hsource with hsource | ⟨field, hsource⟩
    · simp [FieldMapping.source, hsource, Value.truthy] at hf
    · simp only [FieldMapping.source, hsource] at hf
      split at hf <;> cases hf
  | value _ hv hf => exact ⟨_, hv, hf⟩
  | target _ _ _ hf =>
    simp only [FieldMapping.target, hname, Value.orElse] at hf
    cases ht : (Value.text s).truthy <;> simp [ht] at hf

theorem fill_disabled (he : m.enabled.truthy = false) : m.fill article assets name = .ok .nothing := by
  simp [fill, he, pure, Except.pure]

theorem fill_of_source {v : Value} (he : m.enabled.truthy = true) (hv : m.source article = .ok v) :
    m.fill article assets name = match Property.build assets m.propertyType v with
      | .ok (some property) => (m.target name).map fun key => .filled key property
      | .ok none => .ok .nothing
      | .error (.clip e) => .ok (.dropped e.message)
      | .error e => .error e := by
  simp only [fill, he, if_true, hv, bind, Except.bind]
  rcases Property.build assets m.propertyType v with e | _ | p
  · cases e <;> rfl
  · rfl
  · cases m.target name <;> rfl

/-- An entry that breaks does so with just that fault. -/
theorem Breaks.fill {f : Fault} (h : m.Breaks article assets name f) : m.fill article assets name = .error f := by
  cases h with
  | source he hv => simp [FieldMapping.fill, he, hv, bind, Except.bind]
  | value he hv hf =>
    rw [fill_of_source he hv, Property.build_of_fault? hf]
    rcases Property.of_fault? hf with rfl | rfl <;> rfl
  | target he hv hp hf =>
    rw [fill_of_source he hv, hp]
    simp [hf, Except.map]

/-- Every fault of an entry is one that it breaks with. -/
theorem breaks_of_fill {f : Fault} (h : m.fill article assets name = .error f) : m.Breaks article assets name f := by
  cases he : m.enabled.truthy with
  | false =>
    rw [fill_disabled he] at h
    cases h
  | true =>
    cases hv : m.source article with
    | error e =>
      simp only [FieldMapping.fill, he, hv, bind, Except.bind, if_true] at h
      cases h
      exact .source he hv
    | ok v =>
      rw [fill_of_source he hv] at h
      rcases hb : Property.build assets m.propertyType v with e | _ | p <;> rw [hb] at h
      · rcases Property.fault?_of_build hb with hf | ⟨e, rfl⟩
        · have hsame : (Except.error e : Except Fault Filling) = .error f := by
            rcases Property.of_fault? hf with rfl | rfl <;> exact h
          cases hsame
          exact .value he hv hf
        · cases h
      · cases h
      · cases ht : m.target name with
        | ok key =>
          simp [ht, Except.map] at h
        | error e =>
          simp only [ht, Except.map, Except.error.injEq] at h
          subst h
          exact .target he hv hb ht

/-- An entry whose value is refused is dropped. -/
theorem fill_of_refused {v : Value} {e : ClipError} (he : m.enabled.truthy = true) (hv : m.source article = .ok v)
    (hb : Property.build assets m.propertyType v = .error (.clip e)) :
    m.fill article assets name = .ok (.dropped e.message) := by
  rw [fill_of_source he hv, hb]

/-- What is filled was built from the value of the entry. -/
theorem of_fill {key : String} {p : Property} (h : m.fill article assets name = .ok (.filled key p)) :
    ∃ v, m.enabled.truthy = true ∧ m.source article = .ok v ∧
      Property.build assets m.propertyType v = .ok (some p) := by
  cases he : m.enabled.truthy with
  | false =>
    rw [fill_disabled he] at h
    cases h
  | true =>
    cases hv : m.source article with
    | error e =>
      rw [Breaks.fill (.source he hv)] at h
      cases h
    | ok v =>
      rw [fill_of_source he hv] at h
      rcases hb : Property.build assets m.propertyType v with e | _ | q <;> rw [hb] at h
      · cases e <;> cases h
      · cases h
      · cases ht : m.target name with
        | error e => simp [ht, Except.map] at h
        | ok key' =>
          simp only [ht, Except.map, Except.ok.injEq, Filling.filled.injEq] at h
          obtain ⟨-, rfl⟩ := h
          exact ⟨v, rfl, rfl, hb⟩

end FieldMapping

/-! ## Whole mappings -/

namespace Mapping

variable {article : Article} {assets : Assets} {mapping : Mapping}

/-- Results that are all there are there together. -/
theorem mapM_isOk {α β : Type} {f : α → Except Fault β} {xs : List α} :
    (∃ ys, xs.mapM f = .ok ys) ↔ ∀ x ∈ xs, ∃ y, f x = .ok y := by
  induction xs with
  | nil => simp [pure, Except.pure]
  | cons x xs ih =>
    rw [List.mapM_cons, List.forall_mem_cons, ← ih]
    cases f x with
    | error e => simp [bind, Except.bind]
    | ok y => cases xs.mapM f <;> simp [bind, Except.bind, pure, Except.pure]

theorem mem_of_mapM {α β : Type} {f : α → Except Fault β} {xs : List α} {ys : List β} (h : xs.mapM f = .ok ys) {y : β}
    (hy : y ∈ ys) : ∃ x ∈ xs, f x = .ok y := by
  induction xs generalizing ys with
  | nil =>
    cases h
    cases hy
  | cons x xs ih =>
    rw [List.mapM_cons] at h
    obtain ⟨z, hx, h⟩ := exists_of_bind h
    obtain ⟨zs, hxs, ⟨⟩⟩ := exists_of_bind h
    rcases List.mem_cons.1 hy with rfl | hy
    · exact ⟨x, List.mem_cons_self, hx⟩
    · obtain ⟨x', hx', hy'⟩ := ih hxs hy
      exact ⟨x', List.mem_cons_of_mem _ hx', hy'⟩

/-- What an entry comes to. -/
def fillingOf (article : Article) (assets : Assets) (entry : String × FieldMapping) : Except Fault Filling :=
  entry.2.fill article assets entry.1

theorem properties_eq : mapping.properties article assets =
    (mapping.mapM (fillingOf article assets)).map fun fillings => fillings.foldl set [] := by
  unfold properties fillings
  rw [List.mapM_map]
  change (mapping.mapM (fillingOf article assets) >>= fun fillings => pure (fillings.foldl set [])) = _
  cases mapping.mapM (fillingOf article assets) <;> rfl

/-- Properties that are set are those of what the entries come to. -/
theorem exists_fillings {ps : Properties} (h : mapping.properties article assets = .ok ps) :
    ∃ fillings, mapping.mapM (fillingOf article assets) = .ok fillings ∧ ps = fillings.foldl set [] := by
  rw [properties_eq] at h
  cases hfill : mapping.mapM (fillingOf article assets) with
  | error f => simp [hfill, Except.map] at h
  | ok fillings =>
    simp only [hfill, Except.map, Except.ok.injEq] at h
    exact ⟨fillings, rfl, h.symm⟩

/-- Properties are set unless an entry breaks. -/
theorem properties_isOk_iff : (∃ ps, mapping.properties article assets = .ok ps) ↔
    ∀ entry ∈ mapping, ∀ f, ¬ entry.2.Breaks article assets entry.1 f := by
  have hall : (∃ ps, mapping.properties article assets = .ok ps) ↔
      ∃ fillings, (mapping.mapM (fillingOf article assets)) = .ok fillings := by
    rw [properties_eq]
    cases mapping.mapM (fillingOf article assets) <;> simp [Except.map]
  rw [hall, mapM_isOk]
  refine forall₂_congr fun entry _ => ?_
  constructor
  · rintro ⟨filling, hfill⟩ f hbreaks
    rw [fillingOf, hbreaks.fill] at hfill
    cases hfill
  · intro hnone
    cases hfill : fillingOf article assets entry with
    | ok filling => exact ⟨filling, rfl⟩
    | error f => exact absurd (FieldMapping.breaks_of_fill hfill) (hnone f)

/-- A dropped entry changes nothing for the others. -/
theorem properties_dropped {before after : Mapping} {entry : String × FieldMapping} {message : String}
    (h : entry.2.fill article assets entry.1 = .ok (.dropped message)) :
    properties article assets (before ++ entry :: after) = properties article assets (before ++ after) := by
  rw [properties_eq, properties_eq, List.mapM_append, List.mapM_append, List.mapM_cons, fillingOf, h]
  cases before.mapM (fillingOf article assets) with
  | error f => rfl
  | ok fillings =>
    cases after.mapM (fillingOf article assets) with
    | error f => rfl
    | ok rest => simp [bind, Except.bind, pure, Except.pure, Except.map, set]

theorem mem_foldl_set {fillings : List Filling} {properties : Properties} {key : String} {p : Property}
    (h : (key, p) ∈ fillings.foldl set properties) : .filled key p ∈ fillings ∨ (key, p) ∈ properties := by
  induction fillings generalizing properties with
  | nil => exact .inr h
  | cons filling rest ih =>
    rcases ih h with hrest | hset
    · exact .inl (List.mem_cons_of_mem _ hrest)
    · cases filling with
      | filled key' p' =>
        rcases mem_putKey hset with heq | hmem
        · cases heq
          exact .inl List.mem_cons_self
        · exact .inr hmem
      | nothing | dropped => exact .inr hset

/-- What is set was built from the value of some entry. -/
theorem built_of_mem {ps : Properties} (h : mapping.properties article assets = .ok ps) {key : String} {p : Property}
    (hp : (key, p) ∈ ps) : ∃ entry ∈ mapping, ∃ v, entry.2.enabled.truthy = true ∧ entry.2.source article = .ok v ∧
      Property.build assets entry.2.propertyType v = .ok (some p) := by
  obtain ⟨fillings, hfill, rfl⟩ := exists_fillings h
  rcases mem_foldl_set hp with hmem | hmem
  · obtain ⟨entry, hentry, hof⟩ := mem_of_mapM hfill hmem
    obtain ⟨v, hv⟩ := FieldMapping.of_fill hof
    exact ⟨entry, hentry, v, hv⟩
  · cases hmem

/-- Entries break on nothing but the values of their properties where the texts are texts. -/
theorem properties_isOk_of_writable (h : ∀ entry ∈ mapping, entry.2.Typed ∧ entry.2.propertyType.isWritable = true ∧
    ∀ v, entry.2.source article = .ok v → v.isHuge = false ∧ v.isWritable = true) :
    ∃ ps, mapping.properties article assets = .ok ps := by
  refine properties_isOk_iff.2 fun entry hentry f hbreaks => ?_
  obtain ⟨htyped, htype, hvalue⟩ := h entry hentry
  obtain ⟨v, hv, hf⟩ := hbreaks.of_typed htyped
  obtain ⟨hhuge, hwritable⟩ := hvalue v hv
  rw [Property.fault?_of_writable hhuge htype hwritable] at hf
  cases hf

/-- How the properties of a page come from the entries of a mapping. They are all set unless an entry breaks, which
none does that has texts where they belong and no whole number that is too large or cannot be written out. An entry
whose value is refused leaves everything else as it is without that entry. Each number that is set is what the value of
an entry reads as. -/
theorem properties_fill (article : Article) (assets : Assets) (mapping : Mapping) :
    ((∃ ps, mapping.properties article assets = .ok ps) ↔
      ∀ entry ∈ mapping, ∀ f, ¬ entry.2.Breaks article assets entry.1 f) ∧
    ((∀ entry ∈ mapping, entry.2.Typed ∧ entry.2.propertyType.isWritable = true ∧
      ∀ v, entry.2.source article = .ok v → v.isHuge = false ∧ v.isWritable = true) →
      ∃ ps, mapping.properties article assets = .ok ps) ∧
    (∀ before name m after v e, mapping = before ++ (name, m) :: after → m.enabled.truthy = true →
      m.source article = .ok v → Property.build assets m.propertyType v = .error (.clip e) →
      mapping.properties article assets = properties article assets (before ++ after)) ∧
    ∀ ps, mapping.properties article assets = .ok ps → ∀ key x, (key, .number x) ∈ ps →
      ∃ entry ∈ mapping, ∃ v, entry.2.enabled.truthy = true ∧ entry.2.source article = .ok v ∧
        entry.2.propertyType.text? = some "number" ∧ v.toFloat = .ok x := by
  refine ⟨properties_isOk_iff, properties_isOk_of_writable, ?_, ?_⟩
  · rintro before name m after v e rfl he hv hb
    exact properties_dropped (FieldMapping.fill_of_refused he hv hb)
  · intro ps hps key x hx
    obtain ⟨entry, hentry, v, he, hv, hb⟩ := built_of_mem hps hx
    obtain ⟨htype, hread⟩ := Property.number_of_build hb
    exact ⟨entry, hentry, v, he, hv, htype, hread⟩

/-- An entry that sets a number to a fixed value. -/
def numberEntry (literal : Value) : String × FieldMapping :=
  ("N", { propertyName := .text "N", propertyType := .text "number", literalValue := literal })

/-- A whole number of four hundred digits and one breaks everything, and what is read as not a number is set. -/
theorem numbers_unchecked :
    properties {} [] [numberEntry (.int (Int.pow 10 400))] = .error Value.tooHuge ∧
      ∃ x, properties {} [] [numberEntry (.text "nan")] = .ok [("N", .number x)] ∧ x.isFinite = false := by
  constructor
  · have hhuge : Property.fault? (.text "number") (.int (Int.pow 10 400)) = some Value.tooHuge := by
      have hlarge : (Value.int (Int.pow 10 400)).isHuge = true := by decide +kernel
      simp only [Property.fault?, hlarge]
      rfl
    have hfill : fillingOf {} [] (numberEntry (.int (Int.pow 10 400))) = .error Value.tooHuge :=
      FieldMapping.Breaks.fill (.value rfl rfl hhuge)
    rw [properties_eq, List.mapM_cons, hfill]
    rfl
  · obtain ⟨x, hx, hinfinite⟩ : ∃ x, (Value.text "nan").toFloat = .ok x ∧ x.isFinite = false := by
      have hread : (match (Value.text "nan").toFloat with
          | .ok x => !x.isFinite
          | .error _ => false) = true := by decide +kernel
      split at hread
      next x heq => exact ⟨x, heq, by simpa using hread⟩
      next => cases hread
    have hbuild : Property.build [] (.text "number") (.text "nan") = .ok (some (.number x)) := by
      have hnumber : Property.build [] (.text "number") (.text "nan") = Property.numberOf (.text "nan") := rfl
      rw [hnumber, Property.numberOf, hx]
    have hfill : fillingOf {} [] (numberEntry (.text "nan")) = .ok (.filled "N" (.number x)) := by
      refine (FieldMapping.fill_of_source (v := .text "nan") rfl rfl).trans ?_
      rw [show (numberEntry (.text "nan")).2.propertyType = .text "number" from rfl, hbuild]
      rfl
    refine ⟨x, ?_, hinfinite⟩
    rw [properties_eq, List.mapM_cons, hfill]
    rfl

end Mapping

end WebClip
