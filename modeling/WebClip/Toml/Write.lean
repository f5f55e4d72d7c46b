import WebClip.Number.Shortest
import WebClip.Value.Display
/-!
# Writing TOML

The plain keys of a table first, then its sub-tables level by level: all tables one
level down that hold plain keys or nothing at all, then those two levels down. Null is
not written.
-/

namespace WebClip.Toml

/-- The fields of a table. -/
abbrev Fields := List (String × Value)

/-- An unprintable character of one byte is written with four digits. -/
def widened : List Char → List Char
  | '\\' :: 'x' :: rest => '\\' :: 'u' :: '0' :: '0' :: widened rest
  | '\\' :: c :: rest => '\\' :: c :: widened rest
  | c :: rest => c :: widened rest
  | [] => []

/-- A text within quotes. -/
def stringText (s : String) : String :=
  String.ofList ('"' :: (widened (s.toList.flatMap (Text.quotedChar '"')) ++ ['"']))

/-- A key, quoted unless it is bare. -/
def keyText (key : String) : String :=
  if !key.isEmpty && key.toList.all fun c => c.isAlphanum || c == '_' || c == '-' then key
  else stringText key

/-- A floating-point number; the exponent has no leading zero. -/
def floatText (x : Float) : String :=
  let rec strip : List Char → List Char
    | 'e' :: sign :: '0' :: rest => 'e' :: sign :: rest
    | c :: rest => c :: strip rest
    | [] => []
  String.ofList (strip (Number.floatText x).toList)

mutual

/-- A value on one line. -/
def valueText : Value → String
  | .null => "\"None\""
  | .bool b => if b then "true" else "false"
  | .int n => toString n
  | .float x => floatText x
  | .text s => stringText s
  | .shown s => s
  | .list items => "[" ++ itemsText items ++ "]"
  | .record _ => ""

/-- The items of a list, a comma behind each. -/
def itemsText : List Value → String
  | [] => ""
  | v :: rest => " " ++ valueText v ++ "," ++ itemsText rest

end

/-- Whether a value is a list that holds tables. -/
def isTables : Value → Bool
  | .list items => items.any fun v => match v with
    | .record _ => true
    | _ => false
  | _ => false

/-- The lines of the plain keys of a table. -/
def plainText (fields : Fields) : String :=
  String.join (fields.map fun (key, v) => match v with
    | .record _ | .null => ""
    | v => if isTables v then "" else keyText key ++ " = " ++ valueText v ++ "\n")

/-- The tables in a table, by qualified name. -/
def subTables (within : String) (fields : Fields) : List (String × Fields) :=
  fields.filterMap fun
    | (key, .record fields) => some (within ++ keyText key, fields)
    | _ => none

mutual

/-- The lines of a table without its sub-tables. -/
def tableText : Nat → String → Fields → String
  | 0, _, _ => ""
  | n + 1, within, fields =>
    plainText fields ++ String.join (fields.map fun (key, v) =>
      if isTables v then
        String.join (v.items.map fun item => elementText n (within ++ keyText key) item.fields)
      else "")

/-- The lines of one table of a list of tables. -/
def elementText : Nat → String → Fields → String
  | 0, _, _ => ""
  | n + 1, name, fields =>
    let own := tableText n (name ++ ".") fields
    let own := if own.startsWith "[" then "\n" ++ own else own ++ "\n"
    "[[" ++ name ++ "]]\n" ++ own ++ innerText n (subTables (name ++ ".") fields)

/-- The lines of the tables in one table of a list of tables, level by level. -/
def innerText : Nat → List (String × Fields) → String
  | 0, _ => ""
  | n + 1, tables =>
    if tables.isEmpty then ""
    else
      String.join (tables.map fun (name, fields) =>
        let own := tableText n (name ++ ".") fields
        if own.isEmpty then "" else "[" ++ name ++ "]\n" ++ own) ++
      innerText n (tables.flatMap fun (name, fields) => subTables (name ++ ".") fields)

end

/-- Put a table behind what is written, a blank line between them. -/
def appendTable (depth : Nat) (written : String) (table : String × Fields) : String :=
  let own := tableText depth (table.1 ++ ".") table.2
  if own.isEmpty && !(subTables "" table.2).isEmpty then written
  else
    let gap := if written.isEmpty || written.endsWith "\n\n" then "" else "\n"
    written ++ gap ++ "[" ++ table.1 ++ "]\n" ++ own

/-- Put tables and then their sub-tables, level by level, behind what is written. -/
def appendLevels : Nat → String → List (String × Fields) → String
  | 0, written, _ => written
  | n + 1, written, tables =>
    if tables.isEmpty then written
    else appendLevels n (tables.foldl (appendTable (n + 1)) written)
      (tables.flatMap fun (name, fields) => subTables (name ++ ".") fields)

mutual

/-- How deep records and lists are nested in a value. -/
def depth : Value → Nat
  | .list items => depthOfItems items + 1
  | .record fields => depthOfFields fields + 1
  | _ => 0

/-- How deep records and lists are nested in the items of a list. -/
def depthOfItems : List Value → Nat
  | [] => 0
  | v :: rest => max (depth v) (depthOfItems rest)

/-- How deep records and lists are nested in the fields of a record. -/
def depthOfFields : List (String × Value) → Nat
  | [] => 0
  | (_, v) :: rest => max (depth v) (depthOfFields rest)

end

/-- The text of a table. -/
def write (fields : Fields) : String :=
  let levels := 2 * depthOfFields fields + 2
  appendLevels levels (tableText levels "" fields) (subTables "" fields)

end WebClip.Toml
