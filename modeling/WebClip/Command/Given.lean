import WebClip.Command.Signature
import WebClip.Value.Display
/-!
# What is given to a command

The words behind a command's name are read as options, with their values, and as words
of the command itself. An option may have its value attached or as the next word,
options of one letter may stand together, and two dashes end the options.
-/

namespace WebClip.Command

/-- What can be wrong with a command. -/
inductive UsageError where
  | unknownOption (name : String)
  | unwantedValue (name : String)
  | missingValue (name : String)
  | unknownCommand (name : String)
  | missingCommand
  | missingArgument (name : String)
  | extraArguments (words : List String)
  | missingFile (argument path : String)
  | directory (argument path : String)

namespace UsageError

/-- The words for an error. -/
def message : UsageError → String
  | unknownOption name => "No such option " ++ Text.quoted name ++ "."
  | unwantedValue name => "Option " ++ Text.quoted name ++ " does not take a value."
  | missingValue name => "Option " ++ Text.quoted name ++ " requires an argument."
  | unknownCommand name => "No such command " ++ Text.quoted name ++ "."
  | missingCommand => "Missing command."
  | missingArgument name => "Missing argument '" ++ name ++ "'."
  | extraArguments words =>
    "Got unexpected extra " ++ (if words.length = 1 then "argument" else "arguments") ++ " (" ++
      " ".intercalate words ++ ")"
  | missingFile argument path =>
    "Invalid value for '" ++ argument ++ "': File " ++ Text.quoted path ++ " does not exist."
  | directory argument path =>
    "Invalid value for '" ++ argument ++ "': File " ++ Text.quoted path ++ " is a directory."

/-- Whether the use of the command is shown with an error. -/
def showsUsage : UsageError → Bool
  | unwantedValue _ | missingValue _ => false
  | _ => true

/-- All that is shown of an error in the use of a command. -/
def shown (s : Signature) (e : UsageError) : String :=
  let usage := if e.showsUsage then
      s.usage ++ "\nTry '" ++ s.path ++ " --help' for help.\n\n"
    else ""
  usage ++ "Error: " ++ e.message ++ "\n"

end UsageError

/-- What has been given to a command: options with their values, the last one first, and
words. -/
structure Given where
  options : List (String × String) := []
  words : List String := []

namespace Given

/-- Whether an option has been given. -/
def has (name : String) (g : Given) : Bool := g.options.any (·.1 == name)

/-- The value of an option, unless it is missing or empty. -/
def value? (name : String) (g : Given) : Option String :=
  (g.options.lookup name).filter (!·.isEmpty)

/-- An option more. -/
def put (f : Flag) (value : String) (g : Given) : Given :=
  { g with options := (f.name, value) :: g.options }

/-- An option that waits for its value, and the name it was given by. -/
abbrev Pending := Option (Flag × String)

/-- Read letters that stand together behind one dash. -/
def readLetters (flags : List Flag) : List Char → Given → Except UsageError (Given × Pending)
  | [], g => .ok (g, none)
  | c :: rest, g =>
    let name := "-" ++ String.singleton c
    match flags.find? fun f => f.short == some c with
    | none => .error (.unknownOption name)
    | some f =>
      if f.takesValue then
        if rest.isEmpty then .ok (g, some (f, name)) else .ok (g.put f (String.ofList rest), none)
      else readLetters flags rest (g.put f "")

/-- Read one word that begins with a dash. -/
def readOption (flags : List Flag) (word : String) (g : Given) :
    Except UsageError (Given × Pending) :=
  let cs := word.toList
  let name := String.ofList (cs.takeWhile (· != '='))
  let attached := (cs.dropWhile (· != '=')).tail?
  match flags.find? fun f => f.spelled == name with
  | some f =>
    match f.takesValue, attached with
    | true, some value => .ok (g.put f (String.ofList value), none)
    | true, none => .ok (g, some (f, name))
    | false, some _ => .error (.unwantedValue name)
    | false, none => .ok (g.put f "", none)
  | none => if word.startsWith "--" then .error (.unknownOption name) else readLetters flags cs.tail g

/-- Whether a word is an option. -/
def isOption (word : String) : Bool := word.startsWith "-" && word.length > 1

/-- Read the words behind a command's name. Where a command has others under it, its own
options end at the first word that is none. -/
def scan (flags : List Flag) (hasCommands : Bool) :
    Pending → List String → Given → Except UsageError Given
  | some (_, name), [], _ => .error (.missingValue name)
  | some (f, _), value :: rest, g => scan flags hasCommands none rest (g.put f value)
  | none, [], g => .ok g
  | none, word :: rest, g =>
    if word = "--" then .ok { g with words := g.words ++ rest }
    else if isOption word then
      match readOption flags word g with
      | .ok (g, pending) => scan flags hasCommands pending rest g
      | .error e => .error e
    else if hasCommands then .ok { g with words := g.words ++ word :: rest }
    else scan flags hasCommands none rest { g with words := g.words ++ [word] }

end Given

end WebClip.Command
