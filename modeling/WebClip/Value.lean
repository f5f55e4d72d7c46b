/-!
# Values

What an article, a settings file or a reply of the service may hold at a place
whose type nobody checks. Whole numbers and floating-point numbers are kept
apart, and a record keeps its fields in the order they were written.
-/

namespace WebClip

/-- A value of unchecked type. -/
inductive Value where
  | null
  | bool (b : Bool)
  | int (n : Int)
  | float (x : Float)
  | text (s : String)
  | list (items : List Value)
  | record (fields : List (String × Value))
  /-- What no file or reply can hold, known only by how it is shown. -/
  | shown (s : String)
  deriving Inhabited

namespace Value

/-- Whether a value counts as true: everything but null, false, zero and what is empty. -/
def truthy : Value → Bool
  | null => false
  | bool b => b
  | int n => n != 0
  | float x => x != 0
  | text s => !s.isEmpty
  | list items => !items.isEmpty
  | record fields => !fields.isEmpty
  | shown _ => true

/-- The value itself when it counts as true. -/
def orElse (v : Value) (other : Value) : Value := if v.truthy then v else other

/-- A text when the value is one. -/
def text? : Value → Option String
  | text s => some s
  | _ => none

/-- A field of a record. -/
def field? (key : String) : Value → Option Value
  | record fields => fields.lookup key
  | _ => none

/-- The fields of a record; other values have none. -/
def fields : Value → List (String × Value)
  | record fields => fields
  | _ => []

/-- The items of a list; other values have none. -/
def items : Value → List Value
  | list items => items
  | _ => []

end Value

/-- Bind a key: an old binding is replaced where it stands, a new one goes to the end. -/
def putKey {α : Type} (key : String) (value : α) : List (String × α) → List (String × α)
  | [] => [(key, value)]
  | (k, v) :: rest => if k == key then (k, value) :: rest else (k, v) :: putKey key value rest

/-- Whether a key is bound. -/
def hasKey {α : Type} (key : String) (fields : List (String × α)) : Bool :=
  fields.any (·.1 == key)

/-- The bindings in order, each key at its first place with its last value. -/
def ofPairs {α : Type} (pairs : List (String × α)) : List (String × α) :=
  pairs.foldl (fun acc p => putKey p.1 p.2 acc) []

/-! ## Small laws of bindings -/

theorem lookup_putKey_self {α : Type} (key : String) (value : α) (fields : List (String × α)) :
    (putKey key value fields).lookup key = some value := by
  induction fields with
  | nil => simp [putKey]
  | cons p rest ih =>
    obtain ⟨k, v⟩ := p
    by_cases h : k = key
    · simp [putKey, h]
    · have h' : (key == k) = false := beq_eq_false_iff_ne.2 (Ne.symm h)
      simp [putKey, h, List.lookup_cons, h', ih]

theorem lookup_putKey_of_ne {α : Type} {key other : String} (h : other ≠ key) (value : α)
    (fields : List (String × α)) : (putKey key value fields).lookup other = fields.lookup other := by
  have h' : (other == key) = false := beq_eq_false_iff_ne.2 h
  induction fields with
  | nil => simp [putKey, List.lookup_cons, h']
  | cons p rest ih =>
    obtain ⟨k, v⟩ := p
    by_cases hk : k = key
    · subst hk; simp [putKey, List.lookup_cons, h']
    · simp [putKey, hk, List.lookup_cons, ih]

end WebClip
