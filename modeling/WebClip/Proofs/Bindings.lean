import Mathlib.Data.List.Induction
import Mathlib.Data.List.Nodup
import WebClip.Value
/-!
# Laws of bindings

What binding a key does to the keys and to what is bound to each. Bindings made one after another
bind each key to what it was bound to last.
-/

namespace WebClip

variable {α β : Type} {key : String} {fields : List (String × α)}

theorem lookup_putKey (key other : String) (value : α) (fields : List (String × α)) :
    (putKey key value fields).lookup other = if other = key then some value else fields.lookup other := by
  split
  next h => rw [h, lookup_putKey_self]
  next h => exact lookup_putKey_of_ne h value fields

theorem putKey_fresh (h : key ∉ fields.map (·.1)) (value : α) : putKey key value fields = fields ++ [(key, value)] := by
  induction fields with
  | nil => rfl
  | cons p rest ih =>
    rw [List.map_cons, List.mem_cons, not_or] at h
    rw [putKey, if_neg (by simpa using Ne.symm h.1), ih h.2]
    rfl

/-- A key that is bound already keeps its place. -/
theorem keys_putKey_of_mem (h : key ∈ fields.map (·.1)) (value : α) :
    (putKey key value fields).map (·.1) = fields.map (·.1) := by
  induction fields with
  | nil => cases h
  | cons p rest ih =>
    rw [putKey]
    by_cases hp : p.1 = key
    · simp [hp]
    · rw [List.map_cons, List.mem_cons] at h
      rw [if_neg (by simpa using hp), List.map_cons, List.map_cons, ih (h.resolve_left (Ne.symm hp))]

theorem nodup_keys_putKey (h : (fields.map (·.1)).Nodup) (key : String) (value : α) :
    ((putKey key value fields).map (·.1)).Nodup := by
  by_cases hmem : key ∈ fields.map (·.1)
  · rwa [keys_putKey_of_mem hmem]
  · rw [putKey_fresh hmem, List.map_append, List.nodup_append]
    refine ⟨h, List.nodup_singleton _, ?_⟩
    rintro a ha b hb rfl
    obtain rfl : a = key := List.mem_singleton.1 hb
    exact hmem ha

theorem mem_putKey {value : α} {p : String × α} (h : p ∈ putKey key value fields) : p = (key, value) ∨ p ∈ fields := by
  fun_induction putKey key value fields with
  | case1 => exact .inl (by simpa using h)
  | case2 k v rest hk =>
    rcases List.mem_cons.1 h with h | h
    · exact .inl (by rw [h, beq_iff_eq.1 hk])
    · exact .inr (List.mem_cons_of_mem _ h)
  | case3 k v rest hk ih =>
    rcases List.mem_cons.1 h with rfl | h
    · exact .inr List.mem_cons_self
    · exact (ih h).imp_right (List.mem_cons_of_mem _)

/-- Where keys are distinct, a binding is there just when its key is bound to its value. -/
theorem mem_iff_lookup (h : (fields.map (·.1)).Nodup) {value : α} :
    (key, value) ∈ fields ↔ fields.lookup key = some value := by
  induction fields with
  | nil => simp
  | cons p rest ih =>
    obtain ⟨k, x⟩ := p
    rw [List.map_cons, List.nodup_cons] at h
    by_cases hk : key = k
    · subst hk
      have hout : (key, value) ∉ rest := fun hmem => h.1 (List.mem_map_of_mem (f := (·.1)) hmem)
      simp [hout, eq_comm]
    · have hbeq : (key == k) = false := beq_eq_false_iff_ne.2 hk
      simp [List.lookup_cons, hbeq, hk, ih h.2]

theorem mem_of_lookup {value : α} (h : fields.lookup key = some value) : (key, value) ∈ fields := by
  obtain ⟨before, behind, rfl, -⟩ := List.lookup_eq_some_iff.1 h
  exact List.mem_append_right _ List.mem_cons_self

theorem mem_keys_iff_hasKey : key ∈ fields.map (·.1) ↔ hasKey key fields = true := by
  simp [hasKey]

theorem mem_keys_iff_lookup : key ∈ fields.map (·.1) ↔ fields.lookup key ≠ none := by
  induction fields with
  | nil => simp
  | cons p rest ih =>
    obtain ⟨k, x⟩ := p
    by_cases hk : key = k
    · subst hk; simp
    · have hbeq : (key == k) = false := beq_eq_false_iff_ne.2 hk
      simp [List.lookup_cons, hbeq, hk, ← ih]

/-- What is bound may be changed in a way that depends on its key. -/
theorem lookup_mapWithKey (f : String → α → β) (key : String) (fields : List (String × α)) :
    (fields.map fun p => (p.1, f p.1 p.2)).lookup key = (fields.lookup key).map (f key) := by
  induction fields with
  | nil => rfl
  | cons p rest ih =>
    rw [List.map_cons, List.lookup_cons, List.lookup_cons]
    by_cases hk : key = p.1
    · simp [hk]
    · have hbeq : (key == p.1) = false := beq_eq_false_iff_ne.2 hk
      simp [hbeq, ih]

theorem lookup_map (f : α → β) (key : String) (fields : List (String × α)) :
    (fields.map fun p => (p.1, f p.2)).lookup key = (fields.lookup key).map f :=
  lookup_mapWithKey (fun _ => f) key fields

/-- Where keys are distinct, what is left of the bindings under a key depends on what is bound to it. -/
theorem lookup_filterMap (f : String → α → Option β) (h : (fields.map (·.1)).Nodup) (key : String) :
    (fields.filterMap fun p => (f p.1 p.2).map fun x => (p.1, x)).lookup key = (fields.lookup key).bind (f key) := by
  induction fields with
  | nil => rfl
  | cons p rest ih =>
    obtain ⟨k, v⟩ := p
    rw [List.map_cons, List.nodup_cons] at h
    by_cases hk : key = k
    · subst hk
      have hnone : rest.lookup key = none := by
        by_contra hsome
        exact h.1 (mem_keys_iff_lookup.2 hsome)
      cases hf : f key v <;> simp [hf, ih h.2, hnone]
    · have hbeq : (key == k) = false := beq_eq_false_iff_ne.2 hk
      cases hf : f k v <;> simp [List.lookup_cons, hf, hbeq, ih h.2]

theorem putKey_map (f : α → β) (key : String) (value : α) (fields : List (String × α)) :
    putKey key (f value) (fields.map fun p => (p.1, f p.2)) = (putKey key value fields).map fun p => (p.1, f p.2) := by
  induction fields with
  | nil => rfl
  | cons p rest ih =>
    rw [List.map_cons, putKey, putKey]
    split
    · rfl
    · rw [ih]
      rfl

/-! ## Bindings one after another -/

theorem ofPairs_concat (pairs : List (String × α)) (p : String × α) :
    ofPairs (pairs ++ [p]) = putKey p.1 p.2 (ofPairs pairs) := by
  rw [ofPairs, List.foldl_append]
  rfl

theorem nodup_keys_ofPairs (pairs : List (String × α)) : ((ofPairs pairs).map (·.1)).Nodup := by
  induction pairs using List.reverseRecOn with
  | nil => exact List.nodup_nil
  | append_singleton pairs p ih =>
    rw [ofPairs_concat]
    exact nodup_keys_putKey ih p.1 p.2

/-- A key is bound to the last value given to it. -/
theorem lookup_ofPairs (pairs : List (String × α)) (key : String) :
    (ofPairs pairs).lookup key = pairs.reverse.lookup key := by
  induction pairs using List.reverseRecOn with
  | nil => rfl
  | append_singleton pairs p ih =>
    rw [ofPairs_concat, lookup_putKey, List.reverse_append, List.reverse_singleton, List.singleton_append,
      List.lookup_cons, ih]
    by_cases hk : key = p.1
    · rw [if_pos hk, hk, beq_self_eq_true]
    · rw [if_neg hk, beq_eq_false_iff_ne.2 hk]

theorem mem_of_mem_ofPairs {pairs : List (String × α)} {p : String × α} (h : p ∈ ofPairs pairs) : p ∈ pairs := by
  induction pairs using List.reverseRecOn with
  | nil => cases h
  | append_singleton pairs q ih =>
    rw [ofPairs_concat] at h
    rcases mem_putKey h with rfl | hmem
    · exact List.mem_append_right _ List.mem_cons_self
    · exact List.mem_append_left _ (ih hmem)

theorem mem_keys_ofPairs {pairs : List (String × α)} : key ∈ (ofPairs pairs).map (·.1) ↔ key ∈ pairs.map (·.1) := by
  rw [mem_keys_iff_lookup, lookup_ofPairs, ← mem_keys_iff_lookup, List.map_reverse, List.mem_reverse]

/-- Bindings of distinct keys stay as they are. -/
theorem ofPairs_eq (h : (fields.map (·.1)).Nodup) : ofPairs fields = fields := by
  induction fields using List.reverseRecOn with
  | nil => rfl
  | append_singleton fields p ih =>
    rw [List.map_append, List.nodup_append] at h
    have hfresh : p.1 ∉ fields.map (·.1) := fun hmem => h.2.2 _ hmem _ List.mem_cons_self rfl
    rw [ofPairs_concat, ih h.1, putKey_fresh hfresh]

end WebClip
