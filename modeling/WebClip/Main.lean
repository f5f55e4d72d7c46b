import WebClip.Command
import WebClip.Moment
/-!
# The program

Reads the clipper's files, carries out the command that the words name, and writes the
files back. There is no network, so every request ends as one whose connection broke.
-/

namespace WebClip.Program

open Command

/-- An outside that is not there, at a moment. -/
def nowhere (m : Moment) : Outside Unit Float :=
  { now := fun _ => 0
    date := fun _ => m.toString
    ask := fun _ s => (.failure (.broken "no network"), s)
    upload := fun _ s => (.failure (.broken "no network"), s)
    fetch := fun _ s => (.failure (.broken "no network"), s)
    finish := fun urls => List.range urls.length }

/-- Whether a directory stands under a path. -/
def isDirectory (path : String) : IO Bool := do
  try (← IO.FS.realPath path).isDir
  catch _ => pure false

/-- Whether a file may be written. -/
def isWritable (path : String) : IO Bool := do
  try
    let _ ← IO.FS.Handle.mk path .append
    pure true
  catch _ => pure false

/-- What stands in the place of a file. -/
def readFile (path : String) : IO File := do
  try
    let s ← IO.FS.readFile path
    if ← isWritable path then pure (.text s) else pure (.locked s)
  catch _ => if ← isDirectory path then pure .directory else pure .missing

/-- Write a file back, if it has changed. -/
def writeFile (path : String) (before after : File) : IO Unit :=
  match after with
  | .text s => if before = after then pure () else IO.FS.writeFile path s
  | _ => pure ()

/-- What stands under the path of an article. -/
def readSource (path : String) : IO Source := do
  try pure (.file (← IO.FS.readBinFile path))
  catch _ => if ← isDirectory path then pure .directory else pure .missing

/-- The moment at which a mark is left in a directory. -/
def moment (directory : String) : IO Moment := do
  let mark := directory ++ "/started"
  IO.FS.writeFile mark ""
  let metadata ← (← IO.FS.realPath mark).metadata
  pure ⟨metadata.modified.sec.toNat⟩

/-- Carry out a command with what has been typed so far, and with one line more as long as
one is wanted and there is one. `seen` counts the lines and the characters already shown. -/
partial def converse (args : List String) (d : Desk Unit Float) (s : Job.State Unit)
    (seen : Nat × Nat) : IO (Result × Job.State Unit) := do
  let (result, after) := perform args d s
  let shown := after.shown.reverse
  for x in shown.drop seen.1 do IO.println x.plain
  let line ← match result with
    | .aborted =>
      let output := after.output.dropEndWhile (· == '\n')
      IO.print (output.drop seen.2)
      (← IO.getStdout).flush
      (← IO.getStdin).getLine
    | _ => pure ""
  if line.isEmpty then
    IO.print (after.output.drop seen.2)
    IO.eprint after.errors
    pure (result, after)
  else
    let typed := s.typed ++ Job.typedLines line
    let output := after.output.dropEndWhile (· == '\n')
    converse args d { s with typed } (shown.length, output.toString.length)

end WebClip.Program

open WebClip WebClip.Command WebClip.Program in
/-- Carry out the command that the words name. -/
def main (args : List String) : IO UInt32 := do
  let home := (← IO.getEnv "HOME").getD "."
  let directory := home ++ "/.notion_clipper"
  IO.FS.createDirAll directory
  let configPath := directory ++ "/config.toml"
  let historyPath := directory ++ "/state.json"
  let config ← readFile configPath
  let history ← readFile historyPath
  let sources ← args.mapM fun path => do pure (path, ← readSource path)
  let m ← moment directory
  let desk : Desk Unit Float :=
    { outside := nowhere m, time := fun _ => m.time
      source := fun path => (sources.lookup path).getD .missing }
  let (result, s) ← converse args desk { outside := (), config, history } (0, 0)
  writeFile configPath config s.config
  writeFile historyPath history s.history
  pure (UInt32.ofNat result.code)
