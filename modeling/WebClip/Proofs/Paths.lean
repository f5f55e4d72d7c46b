import WebClip.Session
/-!
# Paths of a session

What an action does to its session it does by moves: it tells something, notes the state of
an image, is refused or admitted by the budget, and reaches the outside, which answers. A
path is a list of moves, each from where the one before it has led.
-/

namespace WebClip

/-- One thing that happens to a session, with the answer where the outside gives one. -/
inductive Move where
  | told (notices : List Notice)
  | noted (url : String) (state : ImageState)
  /-- The budget refuses a request. -/
  | refused
  /-- The budget admits a request that is never sent. -/
  | admitted
  | asked (r : Request) (answer : Response Value)
  | uploaded (r : UploadRequest) (answer : Response HttpReply)
  | fetched (url : String) (answer : Response HttpReply)
  | slept (seconds : Value)
  | diagnosed (diagnostics : List String)
  | remembered (file : File)

/-- The state of an image that a move notes, if it notes one. -/
def Move.noted? : Move → Option (String × ImageState)
  | noted url state => some (url, state)
  | _ => none

namespace Session

variable {σ τ : Type} [Clock τ]

/-- What each move makes of a session. A request to the service is made only with a budget
that admits it now. -/
inductive Step (c : Clipper σ τ) : Session σ τ → Move → Session σ τ → Prop
  | told (s ns) : Step c s (.told ns) { s with notices := ns ++ s.notices }
  | noted (s url state) :
    Step c s (.noted url state) { s with transitions := (url, state) :: s.transitions }
  | refused (s e) : s.budget.acquire (c.outside.now s.outside) = .error e →
    Step c s .refused { s with budget := s.budget.expire (c.outside.now s.outside) }
  | admitted (s b) : s.budget.acquire (c.outside.now s.outside) = .ok b →
    Step c s .admitted { s with budget := b }
  | asked (s b r) : s.budget.acquire (c.outside.now s.outside) = .ok b →
    Step c s (.asked r (c.outside.ask r s.outside).1)
      { s with budget := b, events := .asked r :: s.events, outside := (c.outside.ask r s.outside).2 }
  | uploaded (s b r) : s.budget.acquire (c.outside.now s.outside) = .ok b →
    Step c s (.uploaded r (c.outside.upload r s.outside).1)
      { s with budget := b, events := .uploaded r :: s.events, outside := (c.outside.upload r s.outside).2 }
  | fetched (s url) :
    Step c s (.fetched url (c.outside.fetch url s.outside).1)
      { s with events := .fetched url :: s.events, outside := (c.outside.fetch url s.outside).2 }
  | slept (s seconds) : Step c s (.slept seconds) { s with events := .slept seconds :: s.events }
  | diagnosed (s ds) : Step c s (.diagnosed ds) { s with diagnostics := ds }
  | remembered (s file) : Step c s (.remembered file) { s with history := some file }

/-- The moves by which a session becomes another. -/
inductive Path (c : Clipper σ τ) : Session σ τ → List Move → Session σ τ → Prop
  | nil (s) : Path c s [] s
  | cons {s t u : Session σ τ} {m : Move} {ms : List Move} :
    Step c s m t → Path c t ms u → Path c s (m :: ms) u

variable {c : Clipper σ τ} {s t u : Session σ τ} {m : Move} {ms ns : List Move}

theorem Path.single (h : Step c s m t) : Path c s [m] t := .cons h (.nil t)

theorem Path.append (h : Path c s ms t) (h' : Path c t ns u) : Path c s (ms ++ ns) u := by
  induction h with
  | nil => exact h'
  | cons hs _ ih => exact .cons hs (ih h')

/-- Only remembering a clip changes the history. -/
theorem Path.history (h : Path c s ms t) (hr : ∀ file, Move.remembered file ∉ ms) : t.history = s.history := by
  induction h with
  | nil => rfl
  | cons hs _ ih =>
    have hrest : ∀ file, Move.remembered file ∉ _ := fun file hf => hr file (List.mem_cons_of_mem _ hf)
    rw [ih hrest]
    cases hs with
    | remembered => exact absurd List.mem_cons_self (hr _)
    | _ => rfl

/-- A path adds what it notes to the lives of images, and nothing else does. -/
theorem Path.transitions (h : Path c s ms t) : t.transitions = (ms.filterMap Move.noted?).reverse ++ s.transitions := by
  induction h with
  | nil => rfl
  | cons hs _ ih =>
    rw [ih]
    cases hs with
    | noted url state => simp [Move.noted?]
    | _ => rfl

end Session

end WebClip
