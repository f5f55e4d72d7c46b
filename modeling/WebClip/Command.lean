import WebClip.Command.Given
import WebClip.Command.Job
import WebClip.Save
/-!
# Commands

What can be done from a shell: set the clipper up, list databases, show the properties
of one, save an article, move the images of a page into uploads, and show the
configuration.
-/

namespace WebClip.Command

open Job

variable {σ τ : Type}

/-! ## Setting up -/

/-- Ask for the token and the default database. -/
def init : Job σ τ Unit := do
  print "[bold cyan]Notion Clipper Setup[/bold cyan]\n"
  let token ← askHidden "Notion API token" (← get).typed
  configure (Config.setToken (.text token)) (.info "Credentials saved")
  let database ← ask "Default database ID (optional)"
  if !database.isEmpty then
    configure (Config.setDefaultDatabase (.text database))
      (.info ("Default database set to: " ++ database))
  print "\n[green]✓ Configuration saved to ~/.notion_clipper/config.toml[/green]"

/-- A token with its middle left out. -/
def masked (token : Value) : Except Fault String :=
  let hidden := if token.truthy then "(set)" else "(not set)"
  match token with
  | .text s =>
    let cs := s.toList
    if cs.length > 10 then
      .ok (String.ofList (cs.take 6) ++ "..." ++ String.ofList (cs.drop (cs.length - 4)))
    else .ok hidden
  | .list _ | .record _ => .ok hidden
  | _ => .error (.wrongKind "a token is a text")

/-- Show the configuration. -/
def configShow : Job σ τ Unit := do
  if !(← get).config.isPresent then
    print "[yellow]No configuration found. Run 'nclip init' first.[/yellow]"
  else
    let config ← configFile
    let token ← orBreak do masked (← Config.token config)
    print "[bold]Configuration:[/bold]\n"
    print ("Notion token: " ++ token)
    let database := Config.defaultDatabase (← configFile)
    print ("Default database: " ++ (database.orElse (.text "(none)")).display)
    let settings ← settings
    display (.table "Settings" ["Setting", "Value"]
      (settings.fields.map fun (name, v) => [name, v.display]))

/-! ## Databases -/

/-- A value as the cell of a table. -/
def cell : Value → Job σ τ String
  | .text s => pure s
  | .null => pure ""
  | _ => throw .unshowable

/-- A message about something that went wrong. -/
def failed (text : String) : String := coloured "red" ("✗ " ++ text)

/-- What a session answers. An error of the clipper ends the job. -/
def answerOf {α : Type} : Except Fault α → Job σ τ α
  | .ok a => pure a
  | .error (.clip e) => do
    print (failed e.message)
    exit 1
  | .error e => throw (.broken e)

variable [Clock τ]

/-- List the databases. -/
def databases : Job σ τ Unit := do
  let token ← token
  let found ← answerOf (← work token (← settings) false Service.databases)
  if found.isEmpty then
    print "[yellow]No databases found. Share a database with your integration first.[/yellow]"
  else
    let rows ← found.mapM fun d => do
      pure [← cell ((d.field? "title").getD .null), ← cell ((d.field? "id").getD .null)]
    display (.table "Databases" ["Title", "ID"] rows)

/-- Show the properties of a database and how an article would fill them. -/
def schema (database : String) (keep : Bool) : Job σ τ Unit := do
  let token ← token
  let properties ← answerOf (← work token (← settings) false (Service.schema (.text database)))
  let mapping := Mapping.ofSchema properties
  let rows ← properties.mapM fun (name, type) => do
    pure [name, ← cell type, ← cell (((mapping.lookup name).map (·.sourceField)).getD .null)]
  display (.table ("Database " ++ String.ofList (database.toList.take 8))
    ["Property", "Type", "Article field"] rows)
  if keep then
    configure (Config.setMapping database mapping)
      (.info ("Field mapping saved for database: " ++ database))
    print ("[green]✓ Field mapping saved (" ++ toString mapping.length ++ " fields)[/green]")

/-! ## Articles -/

/-- What is asked for when an article is saved. -/
structure SaveOrder where
  source : String
  database : Option String
  title : String
  url : String
  keepImages : Bool
  skipSweep : Bool

/-- The database to save to: the one named, the default, or the one used last. -/
def databaseFor (named : Option String) : Job σ τ Value := do
  let database ← match named with
    | some id => pure (.text id)
    | none => pure (Config.defaultDatabase (← configFile))
  let database ← if database.truthy then pure database
    else orBreak (History.lastDatabase (← get).history)
  if !database.truthy then
    print "[red]✗ No database specified and no default set.[/red]"
    print "[yellow]Use --database or set default_database in the config[/yellow]"
    exit 1
  pure database

/-- The article under a path. -/
def articleAt (order : SaveOrder) : Job σ τ Article := do
  match (← read).source order.source with
  | .file content => orBreak (Article.ofFile order.source content order.title order.url)
  | .missing => throw (.broken (.crash "the file is gone"))
  | .directory => throw (.broken .isDirectory)

/-- The mapping that is configured for a database. -/
def mappingOf (config : File) : Value → Except Fault Mapping
  | .text id => Config.mapping id config
  | .list _ | .record _ => .error (.wrongKind "not a key")
  | _ => .ok []

/-- Save an article, and sweep its page if that is wanted. -/
def saving (config : File) (article : Article) (database download : Value) (skipSweep : Bool) :
    Act σ τ (Saved × Option SweepResult) := do
  let settings := (← read).settings
  Act.tellAll (Config.loadNotices config)
  Act.tellAll (match database with
    | .text id => Config.mappingNotices id config
    | _ => [])
  let mapping ← Act.orFault (mappingOf config database)
  let saved ← Save.run article database mapping download settings.saveTimeout
  if !skipSweep && (Save.needsSweep settings download saved.externalImages).truthy then
    pure (saved, some (← Save.sweep saved.pageId))
  else pure (saved, none)

/-- What is shown of a save that failed, and the exit code. -/
def saveFailure (settings : Settings) : Fault → Job σ τ Unit
  | .clip e =>
    match e.kind with
    | .write _ _ _ url => do
      print ("[yellow]⚠ Page created but incomplete: " ++ e.message ++ "[/yellow]")
      if url.truthy then print ("  " ++ url.display)
      exit 2
    | _ => do
      print (failed ("Save failed: " ++ e.message))
      exit 1
  | .timedOut => do
    print (failed ("Save timed out after " ++ settings.saveTimeout.display ++
      "s (partial content may exist)"))
    exit 1
  | e => throw (.broken e)

/-- Save the article in a file. -/
def save (order : SaveOrder) : Job σ τ Unit := do
  let token ← token
  let settings ← settings
  modify fun s => { s with history := History.ensure s.history }
  let database ← databaseFor order.database
  let article ← articleAt order
  let download := if settings.downloadImages.truthy then .bool !order.keepImages
    else settings.downloadImages
  let config := (← get).config
  match ← work token settings true (saving config article database download order.skipSweep) with
  | .error e => saveFailure settings e
  | .ok (saved, sweep) =>
    print ("\n[green]✓ Saved to Notion:[/green] " ++ saved.url.display)
    print ("  Blocks: " ++ toString saved.blockCount ++ ", images uploaded: " ++
      toString saved.uploadedImages ++ ", external: " ++ toString saved.externalImages)
    match sweep with
    | some r => print ("  Image migration: " ++ toString r.migrated ++ "/" ++
        toString r.processed ++ " migrated, " ++ toString r.failed ++ " failed")
    | none => pure ()

/-- Move the images of a page into uploads. -/
def migrate (page : String) : Job σ τ Unit := do
  let token ← token
  let r ← orBreak (← work token (← settings) false (Sweep.run (.text page)))
  print ("[green]✓ Processed " ++ toString r.processed ++ " external images:[/green] " ++
    toString r.migrated ++ " migrated, " ++ toString r.failed ++ " failed")
  if r.stoppedEarly then
    print "[yellow]⚠ Sweep stopped early (rate limit or auth error)[/yellow]"

/-! ## Choosing a command -/

/-- The program itself. -/
def program : Signature :=
  { about := "nclip - Save articles to Notion databases"
    flags := [{ name := "verbose", short := some 'v', about := "Enable verbose logging" }]
    takes := ["COMMAND", "[ARGS]..."] }

/-- The commands by name. -/
inductive Name where
  | configShow
  | databases
  | init
  | migrate
  | save
  | schema

/-- All commands, sorted by what they are called by. -/
def Name.all : List Name := [.configShow, .databases, .init, .migrate, .save, .schema]

/-- What a command takes. -/
def Name.signature : Name → Signature
  | configShow => { name := some "config-show", about := "Show current configuration" }
  | databases => { name := some "databases", about := "List databases shared with the integration" }
  | init => { name := some "init", about := "Initialize configuration with credentials" }
  | migrate =>
    { name := some "migrate", about := "Rehost external images of an existing page"
      takes := ["PAGE_ID"] }
  | save =>
    { name := some "save"
      about := "Save an article (.json from the extractor, or .md) to Notion"
      flags :=
        [{ name := "database", short := some 'd', takesValue := true
           about := "Database ID (uses default if not specified)" },
         { name := "title", takesValue := true, about := "Override the article title" },
         { name := "url", takesValue := true, about := "Source URL of the article" },
         { name := "no-images", about := "Keep images as external links" },
         { name := "no-migrate", about := "Skip the post-save image migration" }]
      takes := ["SOURCE"] }
  | schema =>
    { name := some "schema", about := "Show database properties and the detected field mapping"
      flags := [{ name := "save", about := "Store the detected field mapping" }]
      takes := ["DATABASE_ID"] }

/-- Carry out a command with what has been given to it; its own word comes apart. -/
def Name.run (word : String) (given : Given) : Name → Job σ τ Unit
  | configShow => Command.configShow
  | databases => Command.databases
  | init => Command.init
  | migrate => Command.migrate word
  | schema => Command.schema word (given.has "save")
  | save => Command.save
      { source := word
        database := given.value? "database"
        title := (given.value? "title").getD ""
        url := (given.value? "url").getD ""
        keepImages := given.has "no-images"
        skipSweep := given.has "no-migrate" }

/-- Show what is wrong with the use of a command. -/
def refuse {α : Type} (s : Signature) (e : UsageError) : Job σ τ α := do
  complain (e.shown s)
  exit 2

/-- What is wrong with the word that a command takes. -/
def wordError? (source : String → Source) (name word : String) : Option UsageError :=
  if name = "SOURCE" then
    match source word with
    | .missing => some (.missingFile name word)
    | .directory => some (.directory name word)
    | .file _ => none
  else none

/-- The word that a command takes, empty if it takes none, and those left over. -/
def ownWord (s : Signature) (source : String → Source) (words : List String) :
    Except UsageError (String × List String) :=
  match s.takes, words with
  | [], words => .ok ("", words)
  | name :: _, [] => .error (.missingArgument name)
  | name :: _, word :: rest =>
    match wordError? source name word with
    | some e => .error e
    | none => .ok (word, rest)

/-- Carry out a command with the words behind its name. -/
def runNamed (name : Name) (args : List String) : Job σ τ Unit := do
  let s := name.signature
  match Given.scan s.allFlags false none args {} with
  | .error e => refuse s e
  | .ok given =>
    if given.has "help" then write (s.help [] ++ "\n")
    else match ownWord s (← read).source given.words with
      | .error e => refuse s e
      | .ok (word, []) => name.run word given
      | .ok (_, extra) => refuse s (.extraArguments extra)

/-- Whether words ask for more notices. -/
def isVerbose (args : List String) : Bool :=
  match Given.scan program.allFlags true none args {} with
  | .ok given => given.has "verbose"
  | .error _ => false

/-- Carry out the command that words name. -/
def run (args : List String) : Job σ τ Unit := do
  let help := program.help (Name.all.map Name.signature)
  match args, Given.scan program.allFlags true none args {} with
  | [], _ => do
    complain (help ++ "\n")
    exit 2
  | _, .error e => refuse program e
  | _, .ok given =>
    if given.has "help" then write (help ++ "\n")
    else match given.words with
      | [] => refuse program .missingCommand
      | word :: rest =>
        match Name.all.find? fun n => n.signature.name == some word with
        | none => refuse program (.unknownCommand word)
        | some name => runNamed name rest

/-- How a job has ended: with an exit code, for want of something typed, or in a way that
nobody has foreseen. -/
inductive Result where
  | exit (code : Nat)
  | aborted
  | broken (e : Fault)
  | unshowable

namespace Result

/-- The result of a job that has ended. -/
def ofEnding : Except Ending Unit → Result
  | .ok () => exit 0
  | .error (.exit code) => exit code
  | .error .aborted => aborted
  | .error (.broken e) => broken e
  | .error .unshowable => unshowable

/-- The exit code of the program. -/
def code : Result → Nat
  | exit code => code
  | aborted | broken _ | unshowable => 1

end Result

/-- Carry out the command that words name, from a state of things to the next. -/
def perform (args : List String) (d : Desk σ τ) (s : State σ) : Result × State σ :=
  let (ending, s) := (run args).carryOut { d with verbose := isVerbose args } s
  match Result.ofEnding ending with
  | .aborted => (.aborted, { s with errors := s.errors ++ "Aborted!\n" })
  | result => (result, s)

end WebClip.Command
