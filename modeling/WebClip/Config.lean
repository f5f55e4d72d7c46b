import WebClip.File
import WebClip.Mapping
import WebClip.Settings
import WebClip.Toml.Read
import WebClip.Toml.Write
/-!
# Configurations

The token, the settings, the default database and the field mappings, each in a section
of one file. A file that cannot be read counts as empty, and setting one section leaves
the others as they are.
-/

namespace WebClip.Config

/-- The table of a configuration. -/
abbrev Table := List (String × Value)

/-- The configuration in a file. -/
def load (f : File) : Table :=
  match f.text?.map Toml.read with
  | some (.ok table) => table
  | _ => []

/-- What is told when a configuration is loaded from a file. -/
def loadNotices (f : File) : List Notice :=
  match f.text?.map Toml.read with
  | some (.error message) => [.error ("Failed to load config: " ++ message)]
  | _ => []

/-- A file after a configuration has been written to it. -/
def save (t : Table) (f : File) : Except Fault File := f.write (Toml.write t)

/-- Change what a file holds under a key. -/
def put (key : String) (v : Value) (f : File) : Except Fault File := save (putKey key v (load f)) f

/-- A section of a configuration, empty where it is missing. -/
def section? (key : String) (f : File) : Value := ((load f).lookup key).getD (.record [])

/-- The token of the service. -/
def token (f : File) : Except Fault Value := do
  let service ← Reply.getD (section? "credentials" f) "notion" (.record [])
  Reply.getD service "api_token" (.text "")

/-- Set the token. -/
def setToken (token : Value) (f : File) : Except Fault File :=
  put "credentials" (.record [("notion", .record [("api_token", token)])]) f

/-- The settings. -/
def settings (f : File) : Except Fault Settings := Settings.ofValue (section? "settings" f)

/-- Set the settings. -/
def setSettings (s : Settings) (f : File) : Except Fault File :=
  put "settings" (.record s.fields) f

/-- The database that serves where none is named. -/
def defaultDatabase (f : File) : Value := ((load f).lookup "default_database").getD .null

/-- Set the default database. -/
def setDefaultDatabase (id : Value) (f : File) : Except Fault File := put "default_database" id f

/-- What the entries of a mapping come to: each one's mapping, or why it is malformed. -/
def mappingEntries (entries : Table) : List (String × Except Fault FieldMapping) :=
  entries.map fun (name, v) => (name, FieldMapping.ofValue name v)

/-- Whether an entry is passed over for a fault instead of ending everything. -/
def isSkipped : Fault → Bool
  | .missingKey _ | .wrongKind _ => true
  | _ => false

/-- The well-formed entries. -/
def wellFormed (entries : List (String × Except Fault FieldMapping)) : Except Fault Mapping :=
  entries.filterMapM fun
    | (name, .ok m) => .ok (some (name, m))
    | (_, .error e) => if isSkipped e then .ok none else .error e

/-- The entries of a database's mapping. -/
def mappingTable (database : String) (f : File) : Except Fault Table := do
  match ← Reply.getD (section? "field_mappings" f) database (.record []) with
  | .record entries => pure entries
  | _ => throw Reply.notRecord

/-- The mapping of a database. -/
def mapping (database : String) (f : File) : Except Fault Mapping := do
  wellFormed (mappingEntries (← mappingTable database f))

/-- What is told of malformed entries of a database's mapping. -/
def mappingNotices (database : String) (f : File) : List Notice :=
  match mappingTable database f with
  | .error _ => []
  | .ok entries => ((mappingEntries entries).takeWhile fun
      | (_, .ok _) => true
      | (_, .error e) => isSkipped e).filterMap fun
    | (name, .error e) =>
      some (.warning ("Skipping malformed field mapping '" ++ name ++ "': " ++ e.message))
    | _ => none

/-- Set the mapping of a database. -/
def setMapping (database : String) (m : Mapping) (f : File) : Except Fault File :=
  match section? "field_mappings" f with
  | .record sections =>
    let table := Value.record (m.map fun (name, m) => (name, m.toValue))
    put "field_mappings" (.record (putKey database table sections)) f
  | _ => .error (.wrongKind "no place for a key")

end WebClip.Config
