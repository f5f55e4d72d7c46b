import WebClip.File
/-!
# Files that are rewritten

Whoever keeps something in a file reads it, changes it and writes it back, again and again, and in
between the owner of the file may forbid and allow writing it. A change that cannot be made leaves the
file as it is, so what the file comes to depends on the changes carried out alone.
-/

namespace WebClip.File

/-- The owner forbids writing the file. -/
def lock : File → File
  | text s => locked s
  | f => f

/-- The owner allows writing the file. -/
def unlock : File → File
  | locked s => text s
  | f => f

@[simp] theorem text?_lock (f : File) : f.lock.text? = f.text? := by cases f <;> rfl

@[simp] theorem text?_unlock (f : File) : f.unlock.text? = f.text? := by cases f <;> rfl

theorem text?_write {f f' : File} {s : String} (h : f.write s = .ok f') : f'.text? = some s := by
  unfold write at h
  split at h <;> cases h
  rfl

/-- What may happen to a file: it is to be changed, or its owner forbids or allows writing it. -/
inductive Event (α : Type) where
  | change (x : α)
  | lock
  | unlock

section Events

variable {α : Type} (act : α → File → Except Fault File)

/-- The file after an event. -/
def happen (f : File) : Event α → File
  | .change x =>
    match act x f with
    | .ok f' => f'
    | .error _ => f
  | .lock => f.lock
  | .unlock => f.unlock

/-- The file after some events. -/
def run (f : File) (es : List (Event α)) : File := es.foldl (happen act) f

/-- The change that an event carries out, if it does, with the file that is changed. -/
def carriedOut (f : File) : Event α → List (File × α)
  | .change x =>
    match act x f with
    | .ok _ => [(f, x)]
    | .error _ => []
  | .lock | .unlock => []

/-- The changes that have been carried out on the way, in order, each with the file that it changed. -/
def changes (f : File) : List (Event α) → List (File × α)
  | [] => []
  | e :: rest => carriedOut act f e ++ changes (happen act f e) rest

/-- What has been carried out on the way, in order. -/
def done (f : File) (es : List (Event α)) : List α := (changes act f es).map (·.2)

variable {act} {f : File} {es : List (Event α)}

/-- A change that fails leaves the file as it is. -/
theorem run_concat_of_error {x : α} {e : Fault} (h : act x (run act f es) = .error e) :
    run act f (es ++ [.change x]) = run act f es := by
  have hlast : happen act (run act f es) (.change x) = run act f es := by rw [happen, h]
  rw [run, List.foldl_append]
  exact hlast

theorem mem_of_mem_changes {p : File × α} (h : p ∈ changes act f es) : .change p.2 ∈ es := by
  induction es generalizing f with
  | nil => cases h
  | cons e rest ih =>
    rcases List.mem_append.1 h with hfirst | hrest
    · cases e with
      | change x =>
        rw [carriedOut] at hfirst
        split at hfirst
        · rw [List.mem_singleton.1 hfirst]
          exact List.mem_cons_self
        · cases hfirst
      | lock => cases hfirst
      | unlock => cases hfirst
    · exact List.mem_cons_of_mem _ (ih hrest)

/-- What a file and the changes made to it have to do with each other holds after all that happens if each change
keeps it up. What the owner of the file does is not seen by who reads it. -/
theorem run_induction {P : File → List α → Prop} {Q : File → α → Prop}
    (same : ∀ {f f' xs}, f'.text? = f.text? → P f xs → P f' xs)
    (step : ∀ {f f' x xs}, P f xs → Q f x → act x f = .ok f' → P f' (xs ++ [x])) {xs : List α} (start : P f xs)
    (hQ : ∀ p ∈ changes act f es, Q p.1 p.2) : P (run act f es) (xs ++ done act f es) := by
  induction es generalizing f xs with
  | nil =>
    rw [done, changes, List.map_nil, List.append_nil]
    exact start
  | cons e rest ih =>
    rw [done, changes, List.map_append, ← List.append_assoc]
    refine ih ?_ fun p hp => hQ p (List.mem_append_right _ hp)
    have hfirst : ∀ p ∈ carriedOut act f e, Q p.1 p.2 := fun p hp => hQ p (List.mem_append_left _ hp)
    cases e with
    | lock =>
      rw [carriedOut, List.map_nil, List.append_nil]
      exact same f.text?_lock start
    | unlock =>
      rw [carriedOut, List.map_nil, List.append_nil]
      exact same f.text?_unlock start
    | change x =>
      rw [carriedOut] at hfirst ⊢
      rw [happen]
      cases hact : act x f with
      | error e => simpa using start
      | ok f' =>
        rw [hact] at hfirst
        exact step start (hfirst (f, x) List.mem_cons_self) hact

end Events

end WebClip.File
