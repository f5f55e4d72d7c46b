import Mathlib.Data.List.Infix
import WebClip.Proofs.Bindings
import WebClip.Toml.Read
/-!
# Tables that have been read

However a text is written, no table that is read from it holds a key twice, neither at the top nor
anywhere inside: a key or a table is put only where it is free, or replaces what stood in its place.
-/

namespace WebClip

/-- A value in which no record, at any depth, holds a key twice. -/
inductive Value.Distinct : Value → Prop
  | null : Distinct .null
  | bool (b : Bool) : Distinct (.bool b)
  | int (n : Int) : Distinct (.int n)
  | float (x : Float) : Distinct (.float x)
  | text (s : String) : Distinct (.text s)
  | shown (s : String) : Distinct (.shown s)
  | list {items : List Value} : (∀ v ∈ items, Distinct v) → Distinct (.list items)
  | record {fields : List (String × Value)} : (fields.map (·.1)).Nodup → (∀ p ∈ fields, Distinct p.2) →
    Distinct (.record fields)

namespace Value.Distinct

variable {fields : List (String × Value)} {key : String} {v : Value}

theorem nil : Distinct (.record []) := .record List.nodup_nil nofun

theorem items {items : List Value} (h : Distinct (.list items)) : ∀ v ∈ items, Distinct v := by
  cases h with
  | list hitems => exact hitems

theorem of_lookup (h : Distinct (.record fields)) (hv : fields.lookup key = some v) : Distinct v := by
  cases h with
  | record hkeys hfields => exact hfields (key, v) ((mem_iff_lookup hkeys).2 hv)

theorem putKey (h : Distinct (.record fields)) (key : String) (hv : Distinct v) :
    Distinct (.record (putKey key v fields)) := by
  cases h with
  | record hkeys hfields =>
    refine .record (nodup_keys_putKey hkeys key v) fun p hp => ?_
    rcases mem_putKey hp with rfl | hmem
    · exact hv
    · exact hfields p hmem

end Value.Distinct

namespace Toml

open Value

/-! ## Values -/

theorem distinct_putNew {keys : List String} {v : Value} (hv : v.Distinct) {fields fields' : List (String × Value)}
    (hfields : Distinct (.record fields)) (h : putNew keys v fields = some fields') : Distinct (.record fields') := by
  fun_induction putNew keys v fields generalizing fields' with
  | case1 => cases h
  | case2 => cases h
  | case3 key v fields _ =>
    cases h
    exact hfields.putKey key hv
  | case4 key rest v fields _ hnone ih =>
    obtain ⟨inner, hinner, rfl⟩ := Option.map_eq_some_iff.1 h
    exact hfields.putKey key (ih hv .nil hinner)
  | case5 key rest v fields _ inner hsome ih =>
    obtain ⟨inner', hinner, rfl⟩ := Option.map_eq_some_iff.1 h
    exact hfields.putKey key (ih hv (hfields.of_lookup hsome) hinner)
  | case6 => cases h

/-- A word holds nothing inside. -/
theorem distinct_word? {cs : List Char} {v : Value} (h : word? cs = some v) : v.Distinct := by
  have hint : ∀ {o : Option Nat}, (o.map fun n => Value.int n) = some v → v.Distinct := by
    intro o ho
    obtain ⟨n, -, rfl⟩ := Option.map_eq_some_iff.1 ho
    exact .int n
  unfold word? at h
  split at h
  · exact hint h
  · exact hint h
  · exact hint h
  · split at h
    · cases h
      exact .bool true
    split at h
    · cases h
      exact .bool false
    split at h
    · cases h
      exact .shown _
    dsimp only at h
    split at h
    · split at h
      · cases h
      split at h
      · cases h
        exact .int _
      · cases h
    split at h
    · obtain ⟨x, -, rfl⟩ := Option.map_eq_some_iff.1 h
      exact .float x
    · cases h

/-- What is read with so much fuel holds no key twice. -/
structure Reads (n : Nat) : Prop where
  value : ∀ {cs v rest}, value? n cs = some (v, rest) → v.Distinct
  items : ∀ {cs vs rest}, items? n cs = some (vs, rest) → ∀ v ∈ vs, v.Distinct
  fields : ∀ {before cs fields rest}, Distinct (.record before) → fields? n before cs = some (fields, rest) →
    Distinct (.record fields)

variable {n : Nat} {cs rest : List Char}

theorem Reads.value_succ (ih : Reads n) {v : Value} (h : value? (n + 1) cs = some (v, rest)) : v.Distinct := by
  unfold value? at h
  split at h
  · obtain ⟨⟨s, r⟩, -, he⟩ := Option.map_eq_some_iff.1 h
    cases he
    exact .text s
  · obtain ⟨⟨s, r⟩, -, he⟩ := Option.map_eq_some_iff.1 h
    cases he
    exact .text s
  · obtain ⟨⟨vs, r⟩, hitems, he⟩ := Option.map_eq_some_iff.1 h
    cases he
    exact .list (ih.items hitems)
  · split at h
    · cases h
      exact .nil
    · obtain ⟨⟨fs, r⟩, hfields, he⟩ := Option.map_eq_some_iff.1 h
      cases he
      exact ih.fields .nil hfields
  · obtain ⟨w, hw, he⟩ := Option.map_eq_some_iff.1 h
    cases he
    exact distinct_word? hw

theorem Reads.items_succ (ih : Reads n) {vs : List Value} (h : items? (n + 1) cs = some (vs, rest)) :
    ∀ v ∈ vs, v.Distinct := by
  unfold items? at h
  split at h
  · cases h
    exact nofun
  split at h
  · cases h
  next v rest' hv =>
    split at h
    · obtain ⟨⟨vs', r⟩, hvs, he⟩ := Option.map_eq_some_iff.1 h
      cases he
      exact List.forall_mem_cons.2 ⟨ih.value hv, ih.items hvs⟩
    · cases h
      exact List.forall_mem_cons.2 ⟨ih.value hv, nofun⟩
    · cases h

theorem Reads.fields_succ (ih : Reads n) {before fields : List (String × Value)} (hbefore : Distinct (.record before))
    (h : fields? (n + 1) before cs = some (fields, rest)) : Distinct (.record fields) := by
  unfold fields? at h
  split at h
  next key rest' _ =>
    split at h
    · cases h
    next v rest'' hv =>
      split at h
      next hput _ => exact ih.fields (distinct_putNew (ih.value hv) hbefore hput) h
      next hput _ =>
        cases h
        exact distinct_putNew (ih.value hv) hbefore hput
      · cases h
  · cases h

theorem reads (n : Nat) : Reads n := by
  induction n with
  | zero => exact ⟨nofun, nofun, nofun⟩
  | succ n ih => exact ⟨ih.value_succ, ih.items_succ, ih.fields_succ⟩

/-! ## Tables -/

variable {root fields : List (String × Value)} {path : List String}

/-- A change at a path that makes no key stand twice makes none stand twice in the whole. -/
theorem distinct_update {change : List (String × Value) → Option (List (String × Value))}
    (hchange : ∀ {fs fs'}, Distinct (.record fs) → change fs = some fs' → Distinct (.record fs'))
    (hfields : Distinct (.record fields)) {fields' : List (String × Value)}
    (h : update change path fields = some fields') : Distinct (.record fields') := by
  fun_induction update change path fields generalizing fields' with
  | case1 fields => exact hchange hfields h
  | case2 key rest fields hnone ih =>
    obtain ⟨inner, hinner, rfl⟩ := Option.map_eq_some_iff.1 h
    exact hfields.putKey key (ih .nil hinner)
  | case3 key rest fields inner hsome ih =>
    obtain ⟨inner', hinner, rfl⟩ := Option.map_eq_some_iff.1 h
    exact hfields.putKey key (ih (hfields.of_lookup hsome) hinner)
  | case4 key rest fields items hsome inner hlast ih =>
    obtain ⟨inner', hinner, rfl⟩ := Option.map_eq_some_iff.1 h
    have hitems := (hfields.of_lookup hsome).items
    -- a path leads through the last table of a list, and the others stay as they are
    have hnew := ih (hitems _ (List.mem_of_getLast? hlast)) hinner
    refine hfields.putKey key (.list fun v hv => ?_)
    rcases List.mem_append.1 hv with hold | hv
    · exact hitems v (List.mem_of_mem_dropLast hold)
    · rw [List.mem_singleton.1 hv]
      exact hnew
  | case5 => cases h
  | case6 => cases h

theorem distinct_addTable {key : String} {fields' : List (String × Value)} (hfields : Distinct (.record fields))
    (h : addTable key fields = some fields') : Distinct (.record fields') := by
  unfold addTable at h
  split at h
  · cases h
    refine hfields.putKey key (.list fun v hv => ?_)
    rw [List.mem_singleton.1 hv]
    exact .nil
  next items hsome =>
    cases h
    refine hfields.putKey key (.list fun v hv => ?_)
    rcases List.mem_append.1 hv with hold | hv
    · exact (hfields.of_lookup hsome).items v hold
    · rw [List.mem_singleton.1 hv]
      exact .nil
  · cases h

theorem distinct_openTable {r r' : Reading} (hr : Distinct (.record r.root)) (h : openTable path r = some r') :
    Distinct (.record r'.root) := by
  unfold openTable at h
  split at h
  · cases h
  obtain ⟨root, hroot, rfl⟩ := Option.map_eq_some_iff.1 h
  refine distinct_update ?_ hr hroot
  intro fs fs' hfs he
  cases he
  exact hfs

theorem distinct_openElement {r r' : Reading} (hr : Distinct (.record r.root)) (h : openElement path r = some r') :
    Distinct (.record r'.root) := by
  unfold openElement at h
  split at h
  · cases h
  split at h
  · cases h
  obtain ⟨root, hroot, rfl⟩ := Option.map_eq_some_iff.1 h
  exact distinct_update distinct_addTable hr hroot

theorem exists_of_orError {α β : Type} {e : ReadError} {x : Option α} {f : α → Except ReadError β} {b : β}
    (h : orError e x >>= f = .ok b) : ∃ a, x = some a ∧ f a = .ok b := by
  cases x with
  | none => cases h
  | some a => exact ⟨a, rfl, h⟩

theorem distinct_statements {r r' : Reading} (hr : Distinct (.record r.root)) (h : statements n r cs = .ok r') :
    Distinct (.record r'.root) := by
  induction n generalizing r cs with
  | zero => cases h
  | succ n ih =>
    unfold statements at h
    dsimp only at h
    -- the end of the text, one more table of a list, a table, or a key with its value
    split at h
    · cases h
      exact hr
    · obtain ⟨⟨path, rest⟩, -, h⟩ := exists_of_orError h
      dsimp only at h
      split at h
      · split at h
        · obtain ⟨r₁, hopen, h⟩ := exists_of_orError h
          exact ih (distinct_openElement hr hopen) h
        · cases h
      · cases h
    · obtain ⟨⟨path, rest⟩, -, h⟩ := exists_of_orError h
      dsimp only at h
      split at h
      · split at h
        · obtain ⟨r₁, hopen, h⟩ := exists_of_orError h
          exact ih (distinct_openTable hr hopen) h
        · cases h
      · cases h
    · obtain ⟨⟨key, rest⟩, -, h⟩ := exists_of_orError h
      dsimp only at h
      split at h
      · obtain ⟨⟨v, rest⟩, hv, h⟩ := exists_of_orError h
        dsimp only at h
        split at h
        · obtain ⟨root, hroot, h⟩ := exists_of_orError h
          refine ih ?_ h
          exact distinct_update (distinct_putNew ((reads _).value hv)) hr hroot
        · cases h
      · cases h

/-- No table that has been read holds a key twice, at any depth. -/
theorem distinct_read {s : String} {t : List (String × Value)} (h : read s = .ok t) : Distinct (.record t) := by
  unfold read at h
  dsimp only at h
  split at h
  next r hr =>
    cases h
    exact distinct_statements .nil hr
  · cases h

end Toml

end WebClip
