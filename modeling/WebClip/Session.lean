import WebClip.Budget
import WebClip.File
import WebClip.Image.Lifecycle
import WebClip.Notice
import WebClip.Service.Request
import WebClip.Settings
/-!
# Sessions

A session is one clipper at work: what the world outside has come to, the requests
admitted, and logs of all that reached the outside, of the lives of images and of what
was told. What the outside answers is a parameter, and so is the type of its state.
-/

namespace WebClip

/-- The readings of a clock. They can be subtracted and compared with a minute. -/
class Clock (τ : Type) extends Sub τ, LE τ, OfNat τ 60 where
  decideLe : DecidableLE τ

instance Clock.decidableLE {τ : Type} [Clock τ] : DecidableLE τ := Clock.decideLe

instance : Clock Float where
  decideLe := inferInstance

/-- The world outside, with states of type `σ` and a clock with readings of type `τ`. -/
structure Outside (σ τ : Type) where
  now : σ → τ
  /-- The time as it is written down. -/
  date : σ → String
  /-- What the service answers. -/
  ask : Request → σ → Response Value × σ
  /-- What the service answers to a request about an upload. -/
  upload : UploadRequest → σ → Response HttpReply × σ
  /-- What the server of an image answers. -/
  fetch : String → σ → Response HttpReply × σ
  /-- The places of the URLs of a batch in the order in which their downloads finish. -/
  finish : List String → List Nat

/-- Something that reached the outside. -/
inductive Event where
  /-- The service was called on with a token. -/
  | opened (token : Value)
  | asked (r : Request)
  | uploaded (r : UploadRequest)
  | fetched (url : String)
  | slept (seconds : Value)
  /-- Nothing more is wanted of the service. -/
  | closed

/-- A clipper at work. The logs are kept newest first. -/
structure Session (σ τ : Type) where
  outside : σ
  budget : Budget τ
  events : List Event := []
  transitions : List (String × ImageState) := []
  notices : List Notice := []
  /-- What went wrong with the page compiled last. -/
  diagnostics : List String := []
  /-- The file of the clip history, if one is kept. -/
  history : Option File := none

/-- What a clipper works with. -/
structure Clipper (σ τ : Type) where
  outside : Outside σ τ
  settings : Settings
  token : String
  /-- How many listings a sweep may make before it is left unfinished: replies that always tell of
  more blocks keep it going. -/
  maxListings : Nat := 1000000

/-- An action of a clipper. -/
abbrev Act (σ τ : Type) := ReaderT (Clipper σ τ) (ExceptT Fault (StateM (Session σ τ)))

namespace Session

variable {σ τ : Type}

/-- The state of the image at a URL, if there has been one. -/
def imageState? (s : Session σ τ) (url : String) : Option ImageState := s.transitions.lookup url

/-- The distinct URLs of images, the last one touched first. -/
def imageUrls (s : Session σ τ) : List String := (s.transitions.map (·.1)).eraseDups

/-- A new session, with the budget of the settings. -/
def start [Clock τ] (settings : Settings) (outside : σ) (history : Option File) :
    Except Fault (Session σ τ) := do
  let perMinute ← match settings.requestsPerMinute with
    | .int n => pure n
    | .bool b => pure (if b then 1 else 0)
    | _ => throw (.wrongKind "not a number of requests")
  pure { outside, budget := ← Budget.ofLimit perMinute, history }

end Session

namespace Act

variable {σ τ : Type}

/-- Carry out an action. -/
def carryOut {α : Type} (a : Act σ τ α) (c : Clipper σ τ) (s : Session σ τ) :
    Except Fault α × Session σ τ :=
  StateT.run (ExceptT.run (ReaderT.run a c)) s

/-- Tell something. -/
def tell (n : Notice) : Act σ τ Unit := modify fun s => { s with notices := n :: s.notices }

/-- Tell notices in order. -/
def tellAll (ns : List Notice) : Act σ τ Unit :=
  modify fun s => { s with notices := ns.reverse ++ s.notices }

/-- Note that something reached the outside. -/
def log (e : Event) : Act σ τ Unit := modify fun s => { s with events := e :: s.events }

/-- Note a state of the image at a URL. -/
def note (url : String) (state : ImageState) : Act σ τ Unit :=
  modify fun s => { s with transitions := (url, state) :: s.transitions }

/-- Carry out an action and answer with its fault if it ends in one. -/
def attempt {α : Type} (a : Act σ τ α) : Act σ τ (Except Fault α) :=
  tryCatch (do pure (.ok (← a))) fun e => pure (.error e)

/-- Have the fault of a value that may be one. -/
def orFault {α : Type} : Except Fault α → Act σ τ α
  | .ok a => pure a
  | .error e => throw e

/-- Have a request admitted by the budget. -/
def spend [Clock τ] (label : String) : Act σ τ Unit := do
  let s ← get
  let now := (← read).outside.now s.outside
  match s.budget.acquire now with
  | .ok budget => set { s with budget }
  | .error e =>
    set { s with budget := s.budget.expire now }
    tell (.warning ("Request budget exhausted (" ++ toString s.budget.perMinute ++
      "/min) before " ++ label))
    throw (.clip e)

/-- The answer of a response. What never comes is given up some time. -/
def answerOf {α : Type} (label : String) : Response α → Act σ τ α
  | .answer a => pure a
  | .failure f => throw (f.toFault label)
  | .silence => throw .timedOut

/-- Ask the service. -/
def ask [Clock τ] (r : Request) : Act σ τ Value := do
  spend r.label
  log (.asked r)
  let s ← get
  let (response, outside) := (← read).outside.ask r s.outside
  set { s with outside }
  answerOf r.label response

/-- Wait, which takes no time of its own. -/
def sleep (seconds : Value) : Act σ τ Unit := log (.slept seconds)

/-- Ask the server of an image. -/
def fetch (url : String) : Act σ τ (Response HttpReply) := do
  log (.fetched url)
  let s ← get
  let (response, outside) := (← read).outside.fetch url s.outside
  set { s with outside }
  pure response

end Act

end WebClip
