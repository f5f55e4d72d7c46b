/-!
# Signatures of commands

What a command takes: options by name and at most one word of its own. A signature is
also what the help on a command is written from.
-/

namespace WebClip.Command

/-- An option of a command. -/
structure Flag where
  /-- The long name, without its dashes. -/
  name : String
  short : Option Char := none
  takesValue : Bool := false
  about : String

/-- The option that every command has. -/
def Flag.help : Flag := { name := "help", about := "Show this message and exit." }

/-- What a command takes. -/
structure Signature where
  /-- What the command is called by, behind the name of the program. -/
  name : Option String := none
  about : String
  flags : List Flag := []
  /-- The names of the words it takes. -/
  takes : List String := []

/-- The name that the program goes by. -/
def programName : String := "cli"

namespace Flag

/-- The long name with its dashes. -/
def spelled (f : Flag) : String := "--" ++ f.name

/-- All that an option can be given as. -/
def spellings (f : Flag) : String :=
  let names := match f.short with
    | some c => "-" ++ String.singleton c ++ ", " ++ f.spelled
    | none => f.spelled
  if f.takesValue then names ++ " TEXT" else names

end Flag

namespace Signature

/-- All options of a command, the one for help last. -/
def allFlags (s : Signature) : List Flag := s.flags ++ [.help]

/-- What the command is called by. -/
def path (s : Signature) : String :=
  match s.name with
  | some name => programName ++ " " ++ name
  | none => programName

/-- How the command is used. -/
def usage (s : Signature) : String :=
  "Usage: " ++ " ".intercalate ([s.path, "[OPTIONS]"] ++ s.takes)

/-- Lines of two columns, the second of which starts at one place for all. -/
def columns (rows : List (String × String)) : List String :=
  let width := (rows.map (·.1.length)).foldl max 0 + 2
  rows.map fun (first, second) =>
    "  " ++ first ++ String.ofList (List.replicate (width - first.length) ' ') ++ second

/-- The help on a command, and on the commands under it. -/
def help (s : Signature) (commands : List Signature) : String :=
  let options := columns (s.allFlags.map fun f => (f.spellings, f.about))
  let others := columns (commands.map fun c => (c.name.getD "", c.about))
  "\n".intercalate ([s.usage, "", "  " ++ s.about, "", "Options:"] ++ options ++
    if others.isEmpty then [] else ["", "Commands:"] ++ others)

end Signature

end WebClip.Command
