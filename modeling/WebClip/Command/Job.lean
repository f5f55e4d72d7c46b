import WebClip.Article.OfFile
import WebClip.Command.Screen
import WebClip.Config
import WebClip.History
import WebClip.Session
/-!
# Jobs

A job is one run of a command: it reads what is typed, shows lines and tables, tells
notices, keeps the two files of the clipper, and lets a session work for it. It may end
before it is through, with an exit code or with a fault that nobody has foreseen.
-/

namespace WebClip.Command

/-- What stands under the path of an article. -/
inductive Source where
  | missing
  | directory
  | file (content : ByteArray)

/-- How a job ends before it is through. -/
inductive Ending where
  | exit (code : Nat)
  /-- Nothing more was typed where something was asked for. -/
  | aborted
  | broken (e : Fault)
  /-- A value that is no text was to be shown in a table. -/
  | unshowable

/-- What a job works with. -/
structure Desk (σ τ : Type) where
  outside : Outside σ τ
  /-- The time as notices give it. -/
  time : σ → String
  /-- What stands under a path. -/
  source : String → Source
  /-- Whether notices go to the error output, with more of them. -/
  verbose : Bool := false

/-- A job under way. The logs are kept newest first. -/
structure Job.State (σ : Type) where
  outside : σ
  config : File
  history : File
  /-- The lines still to be typed. -/
  typed : List String := []
  shown : List Shown := []
  output : String := ""
  errors : String := ""
  events : List Event := []

/-- A job. -/
abbrev Job (σ τ : Type) := ReaderT (Desk σ τ) (ExceptT Ending (StateM (Job.State σ)))

namespace Job

variable {σ τ : Type}

/-- Carry out a job. -/
def carryOut {α : Type} (j : Job σ τ α) (d : Desk σ τ) (s : State σ) : Except Ending α × State σ :=
  StateT.run (ExceptT.run (ReaderT.run j d)) s

/-! ## What is shown -/

/-- Show something. -/
def display (x : Shown) : Job σ τ Unit := modify fun s => { s with shown := x :: s.shown }

/-- Show a line. -/
def print (text : String) : Job σ τ Unit := display (.line text)

/-- Write to the output. -/
def write (text : String) : Job σ τ Unit := modify fun s => { s with output := s.output ++ text }

/-- Write to the error output. -/
def complain (text : String) : Job σ τ Unit :=
  modify fun s => { s with errors := s.errors ++ text }

/-- Tell a notice. -/
def tell (n : Notice) : Job σ τ Unit := do
  let time := (← read).time (← get).outside
  if (← read).verbose then
    complain (time ++ " | " ++ n.level.name ++ " | " ++ n.text ++ "\n")
  else print (n.line time)

/-- Tell notices in order. -/
def tellAll : List Notice → Job σ τ Unit
  | [] => pure ()
  | n :: rest => do
    tell n
    tellAll rest

/-! ## How it ends -/

/-- End the job with an exit code. -/
def exit {α : Type} (code : Nat) : Job σ τ α := throw (.exit code)

/-- Have what may be a fault; a fault ends the job. -/
def orBreak {α : Type} : Except Fault α → Job σ τ α
  | .ok a => pure a
  | .error e => throw (.broken e)

/-! ## What is typed -/

/-- The lines of a text that is typed; the last one may lack its end. -/
def typedLines (text : String) : List String :=
  let lines := (Text.splitOn '\n' (Text.unifyNewlines text.toList)).map String.ofList
  if lines.getLast? == some "" then lines.dropLast else lines

/-- Read a line without showing it, once more as long as it is empty. -/
def askHidden (question : String) : List String → Job σ τ String
  | [] => do
    write (question ++ ": \n\n")
    throw .aborted
  | line :: rest => do
    write (question ++ ": \n")
    modify fun s => { s with typed := rest }
    if line.isEmpty then askHidden question rest else pure line

/-- Read a line that may be empty. -/
def ask (question : String) : Job σ τ String := do
  write (question ++ ": ")
  match (← get).typed with
  | [] => throw .aborted
  | line :: rest =>
    write (line ++ "\n")
    modify fun s => { s with typed := rest }
    pure line

/-! ## The files of the clipper -/

/-- The file of the configuration, once it is known whether it can be read. -/
def configFile : Job σ τ File := do
  let config := (← get).config
  tellAll (Config.loadNotices config)
  pure config

/-- Change the configuration, and tell of it. -/
def configure (change : File → Except Fault File) (done : Notice) : Job σ τ Unit := do
  let config ← orBreak (change (← configFile))
  modify fun s => { s with config }
  tell done

/-- The settings. -/
def settings : Job σ τ Settings := do
  let config ← configFile
  tellAll (Settings.notices (Config.section? "settings" config))
  orBreak (Config.settings config)

/-- The token, which must have been configured. -/
def token : Job σ τ Value := do
  let token ← orBreak (Config.token (← configFile))
  if !token.truthy then
    print "[red]✗ Notion token not configured. Run 'nclip init' first.[/red]"
    exit 1
  pure token

/-! ## Sessions -/

/-- Let a session work, which keeps the history if that is wanted. -/
def work {α : Type} [Clock τ] (token : Value) (settings : Settings) (keepsHistory : Bool)
    (a : Act σ τ α) : Job σ τ (Except Fault α) := do
  let s ← get
  let history := if keepsHistory then some s.history else none
  match Session.start settings s.outside history with
  | .error e =>
    set { s with events := Event.opened token :: s.events }
    pure (.error e)
  | .ok session =>
    let clipper := { outside := (← read).outside, settings, token := token.display }
    let (result, session) := a.carryOut clipper session
    set { s with
      outside := session.outside
      history := session.history.getD s.history
      events := Event.closed :: (session.events ++ Event.opened token :: s.events) }
    tellAll session.notices.reverse
    pure result

end Job

end WebClip.Command
