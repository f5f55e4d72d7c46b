import WebClip.Json.Read
import WebClip.Number.Numeral
import WebClip.Text.Blank
import WebClip.Value.Display
/-!
# Reading TOML

Tables, lists of tables, and keys with values: strings of four kinds, numbers, booleans,
dates as they are written, lists and inline tables. A table or a key that is defined
twice makes the whole text unreadable.
-/

namespace WebClip.Toml

open Text

/-- White space within a line. -/
def skipSpace (cs : List Char) : List Char := cs.dropWhile fun c => c == ' ' || c == '\t'

/-- A text behind a comment, if one stands at its start. -/
def skipComment (cs : List Char) : List Char :=
  match cs with
  | '#' :: rest => rest.dropWhile (· != '\n')
  | _ => cs

/-- White space, line ends and comments. -/
def skipLines : Nat → List Char → List Char
  | 0, cs => cs
  | n + 1, cs =>
    match cs with
    | '#' :: _ => skipLines n (skipComment cs)
    | c :: rest => if c == ' ' || c == '\t' || c == '\n' then skipLines n rest else cs
    | [] => []

/-- A character that a key may hold without quotes. -/
def isBare (c : Char) : Bool :=
  c.isAlphanum || c == '_' || c == '-' || (c.toNat > 127 && !isBlank c)

/-- A character given by its number in base sixteen, in so many digits. -/
def numbered? (size : Nat) (cs : List Char) : Option (Char × List Char) := do
  let digits := cs.take size
  if digits.length < size then none
  else
    let n ← digits.foldlM (fun n c => (Json.hexValue? c).map (16 * n + ·)) 0
    if n < 0xD800 || (0xE000 ≤ n && n < 0x110000) then some (Char.ofNat n, cs.drop size) else none

/-- The character of an escape behind its backslash, and what follows it. -/
def escape? (cs : List Char) : Option (Char × List Char) :=
  match cs with
  | 'u' :: rest => numbered? 4 rest
  | 'U' :: rest => numbered? 8 rest
  | '/' :: _ => none
  | c :: rest => (Json.escaped? c).map fun d => (d, rest)
  | [] => none

/-- The characters of a string behind its quotes, and what follows it. `size` is one, or three
for a string of several lines, and only double quotes take escapes. -/
def string? (quote : Char) (size : Nat) : Nat → List Char → Option (List Char × List Char)
  | 0, _ => none
  | n + 1, cs =>
    match cs with
    | [] => none
    | c :: rest =>
      if startsWith (List.replicate size quote) cs then some ([], cs.drop size)
      else if c == '\n' && size = 1 then none
      else if c == '\\' && quote == '"' then
        if size = 3 && (skipSpace rest).head? == some '\n' then
          string? quote size n (rest.dropWhile isBlank)
        else match escape? rest with
          | some (d, rest) => (string? quote size n rest).map fun (s, r) => (d :: s, r)
          | none => none
      else (string? quote size n rest).map fun (s, r) => (c :: s, r)

/-- A string with its quotes, and what follows it. -/
def quoted? (cs : List Char) : Option (String × List Char) :=
  let read (quote : Char) (size : Nat) (body : List Char) : Option (String × List Char) :=
    (string? quote size (body.length + 1) body).map fun (s, r) => (String.ofList s, r)
  let lines (quote : Char) (rest : List Char) : Option (String × List Char) :=
    match rest with
    | '\n' :: rest => read quote 3 rest
    | rest => read quote 3 rest
  match cs with
  | '"' :: '"' :: '"' :: rest => lines '"' rest
  | '\'' :: '\'' :: '\'' :: rest => lines '\'' rest
  | '"' :: rest => read '"' 1 rest
  | '\'' :: rest => read '\'' 1 rest
  | _ => none

/-- One part of a key, and what follows it. -/
def keyPart? (cs : List Char) : Option (String × List Char) :=
  match cs with
  | '"' :: _ | '\'' :: _ => quoted? cs
  | _ =>
    let bare := cs.takeWhile isBare
    if bare.isEmpty then none else some (String.ofList bare, cs.drop bare.length)

/-- The parts of a key with dots among them, and what follows it. -/
def key? : Nat → List Char → Option (List String × List Char)
  | 0, _ => none
  | n + 1, cs => do
    let (part, rest) ← keyPart? (skipSpace cs)
    match skipSpace rest with
    | '.' :: rest =>
      let (parts, rest) ← key? n rest
      pure (part :: parts, rest)
    | rest => pure ([part], rest)

/-! ## Values -/

/-- Digits of a base without the underscores among them. -/
def digitsIn (base : Nat) (cs : List Char) : Option Nat :=
  let digits := cs.filter (· != '_')
  if digits.isEmpty then none
  else digits.foldlM (fun n c => (Json.hexValue? c).bind fun d =>
    if d < base then some (base * n + d) else none) 0

/-- Whether a text looks like a date or a time. -/
def isDate (cs : List Char) : Bool :=
  let digit (i : Nat) : Bool := (cs[i]?).any Char.isDigit
  (digit 0 && digit 1 && digit 2 && digit 3 && cs[4]? == some '-') ||
    (digit 0 && digit 1 && cs[2]? == some ':')

/-- A value that is one word. -/
def word? (cs : List Char) : Option Value :=
  match cs with
  | '0' :: 'x' :: rest => (digitsIn 16 rest).map fun n => .int n
  | '0' :: 'o' :: rest => (digitsIn 8 rest).map fun n => .int n
  | '0' :: 'b' :: rest => (digitsIn 2 rest).map fun n => .int n
  | _ =>
    if cs == "true".toList then some (.bool true)
    else if cs == "false".toList then some (.bool false)
    else if isDate cs then some (.shown (String.ofList cs))
    else
      let body := (Number.takeSign cs).2
      let plain := body.all fun c => c.isDigit || c == '_'
      if plain then
        if body.head? == some '0' && body.length > 1 then none
        else match Number.readInt cs with
          | .ok n => some (.int n)
          | .error _ => none
      else if body == "inf".toList || body == "nan".toList || body.head?.any Char.isDigit then
        (Number.readFloat cs).map .float
      else none

/-- A character that ends a word. -/
def endsWord (c : Char) : Bool :=
  c == ',' || c == ']' || c == '\x7d' || c == '#' || c == '\n'

/-- Put a value under the parts of a key, which must be free. -/
def putNew : List String → Value → List (String × Value) → Option (List (String × Value))
  | [], _, _ => none
  | [key], v, fields => if hasKey key fields then none else some (putKey key v fields)
  | key :: rest, v, fields =>
    match fields.lookup key with
    | none => (putNew rest v []).map fun inner => putKey key (.record inner) fields
    | some (.record inner) => (putNew rest v inner).map fun inner => putKey key (.record inner) fields
    | some _ => none

mutual

/-- A value, and what follows it. -/
def value? : Nat → List Char → Option (Value × List Char)
  | 0, _ => none
  | n + 1, cs =>
    match cs with
    | '"' :: _ | '\'' :: _ => (quoted? cs).map fun (s, r) => (.text s, r)
    | '[' :: rest => (items? n rest).map fun (vs, r) => (.list vs, r)
    | '\x7b' :: rest =>
      match skipSpace rest with
      | '\x7d' :: rest => some (.record [], rest)
      | rest => (fields? n [] rest).map fun (fs, r) => (.record fs, r)
    | _ =>
      let word := cs.takeWhile fun c => !endsWord c
      (word? (trim word)).map fun v => (v, cs.drop word.length)

/-- The items of a list up to its end, and what follows it. -/
def items? : Nat → List Char → Option (List Value × List Char)
  | 0, _ => none
  | n + 1, cs =>
    match skipLines cs.length cs with
    | ']' :: rest => some ([], rest)
    | cs =>
      match value? n cs with
      | none => none
      | some (v, rest) =>
        match skipLines rest.length rest with
        | ',' :: rest => (items? n rest).map fun (vs, r) => (v :: vs, r)
        | ']' :: rest => some ([v], rest)
        | _ => none

/-- The fields of an inline table up to its end, behind those before, and what follows it. -/
def fields? : Nat → List (String × Value) → List Char → Option (List (String × Value) × List Char)
  | 0, _, _ => none
  | n + 1, before, cs =>
    match key? (cs.length + 1) cs with
    | some (key, '=' :: rest) =>
      match value? n (skipSpace rest) with
      | none => none
      | some (v, rest) =>
        match putNew key v before, skipSpace rest with
        | some fields, ',' :: rest => fields? n fields rest
        | some fields, '\x7d' :: rest => some (fields, rest)
        | _, _ => none
    | _ => none

end

/-! ## Tables -/

/-- A text being read: the tables so far, the path of the one being filled, and the paths of
those that have been opened. A path leads through the last table of a list. -/
structure Reading where
  root : List (String × Value) := []
  path : List String := []
  opened : List (List String) := []

/-- Change the table at a path, which is made where it is missing. -/
def update (change : List (String × Value) → Option (List (String × Value))) :
    List String → List (String × Value) → Option (List (String × Value))
  | [], fields => change fields
  | key :: rest, fields =>
    match fields.lookup key with
    | none => (update change rest []).map fun inner => putKey key (.record inner) fields
    | some (.record inner) =>
      (update change rest inner).map fun inner => putKey key (.record inner) fields
    | some (.list items) =>
      match items.getLast? with
      | some (.record inner) => (update change rest inner).map fun inner =>
          putKey key (.list (items.dropLast ++ [.record inner])) fields
      | _ => none
    | some _ => none

/-- Open a table. -/
def openTable (path : List String) (r : Reading) : Option Reading :=
  if r.opened.contains path then none
  else (update some path r.root).map fun root =>
    { root, path, opened := path :: r.opened }

/-- Put one more table to a list of tables. -/
def addTable (key : String) (fields : List (String × Value)) : Option (List (String × Value)) :=
  match fields.lookup key with
  | none => some (putKey key (.list [.record []]) fields)
  | some (.list items) => some (putKey key (.list (items ++ [.record []])) fields)
  | some _ => none

/-- Open one more table of a list of tables. -/
def openElement (path : List String) (r : Reading) : Option Reading :=
  match path.getLast? with
  | none => none
  | some key =>
    if r.opened.contains path then none
    else (update (addTable key) path.dropLast r.root).map fun root =>
      { root, path, opened := r.opened.filter fun p => !path.isPrefixOf p }

/-- Whether nothing but a comment follows on a line. -/
def endsLine (cs : List Char) : Bool :=
  match skipComment (skipSpace cs) with
  | [] | '\n' :: _ => true
  | _ => false

/-! ## What makes a text unreadable -/

/-- What can be wrong with a text. -/
inductive Problem where
  | emptyKey
  | keyAtLineEnd
  | keyAtEnd
  | keyCharacter (c : Char)
  | duplicateKey
  | header
  /-- A table stands already in the one around it. -/
  | duplicateTable (name : String) (around : Value)
  | emptyValue
  | capitalBoolean
  | badFloat
  | badNumber (word : String)
  | unbalancedQuotes
  | unterminatedString
  | trailing
  | other

/-- The words for a problem. -/
def Problem.message : Problem → String
  | emptyKey => "Found empty keyname. "
  | keyAtLineEnd => "Key name found without value. Reached end of line."
  | keyAtEnd => "Key name found without value. Reached end of file."
  | keyCharacter c =>
    "Found invalid character in key name: '" ++ String.singleton c ++
      "'. Try quoting the key name."
  | duplicateKey => "Duplicate keys!"
  | header => "Key group not on a line by itself."
  | duplicateTable name around => "What? " ++ name ++ " already exists?" ++ around.display
  | emptyValue => "Empty value is invalid"
  | capitalBoolean => "Only all lowercase booleans allowed"
  | badFloat => "This float doesn't have a leading digit"
  | badNumber word => "invalid literal for int() with base 0: " ++ quoted word
  | unbalancedQuotes => "Unbalanced quotes"
  | unterminatedString => "Unterminated string found. Reached end of file."
  | trailing => "Found tokens after a closed string. Invalid TOML."
  | other => "Invalid TOML"

/-- The table at a path, as far as there is one. -/
def tableAt : List String → List (String × Value) → List (String × Value)
  | [], fields => fields
  | key :: rest, fields =>
    match fields.lookup key with
    | some (.record inner) => tableAt rest inner
    | some (.list items) => tableAt rest ((items.getLast?.getD .null).fields)
    | _ => []

/-- The problem of a table that stands already. -/
def Reading.duplicate (path : List String) (r : Reading) : Problem :=
  .duplicateTable (path.getLastD "") (.record (tableAt path.dropLast r.root))

/-- Why a text cannot be read, and how many characters follow the place that shows it. -/
structure ReadError where
  problem : Problem
  left : Nat

/-- Why no key can be read at the start of a text; `spaced` says that white space has ended the
part of the key before. -/
def keyError (spaced : Bool) : List Char → ReadError
  | [] => ⟨.keyAtEnd, 0⟩
  | '\n' :: rest => ⟨.keyAtLineEnd, rest.length + 1⟩
  | '=' :: rest => ⟨.other, rest.length + 1⟩
  | '.' :: rest => keyError false rest
  | c :: rest =>
    if isBlank c then keyError true rest
    else if !spaced && isBare c then keyError false rest
    else ⟨.keyCharacter c, rest.length + 1⟩

/-- Why a statement has no key. -/
def statementError (cs : List Char) : ReadError :=
  match cs with
  | '=' :: _ => ⟨.emptyKey, cs.length⟩
  | _ => keyError false (cs.drop 1)

/-- Why a word is no value. -/
def wordProblem (word : List Char) : Problem :=
  if word.isEmpty then .emptyValue
  else if word.map Char.toLower == "true".toList || word.map Char.toLower == "false".toList then
    .capitalBoolean
  else if word.contains '.' || (!word.contains 'x' && (word.contains 'e' || word.contains 'E')) then
    .badFloat
  else .badNumber (String.ofList word)

/-- Why there is no value behind the key of the statement that `left` characters begin. -/
def valueError (left : Nat) (cs : List Char) : ReadError :=
  match cs with
  | '"' :: rest | '\'' :: rest =>
    match rest.dropWhile (· != '\n') with
    | [] => ⟨.unterminatedString, 0⟩
    | rest => ⟨.unbalancedQuotes, rest.length⟩
  | '[' :: rest =>
    let item := ((rest.takeWhile (· != ',')).filter (· != '\n')).dropLast
    ⟨if (trim item).isEmpty then .other else wordProblem (trim item), left⟩
  | '\x7b' :: _ => ⟨.other, left⟩
  | _ => ⟨wordProblem (trim (cs.takeWhile fun c => c != '\n' && c != '#')), left⟩

/-- A result, or else the reason why there is none. -/
def orError {α : Type} (e : ReadError) (x : Option α) : Except ReadError α := x.elim (.error e) .ok

/-- Read statements up to the end of the text. -/
def statements : Nat → Reading → List Char → Except ReadError Reading
  | 0, _, cs => .error ⟨.other, cs.length⟩
  | n + 1, r, cs =>
    let fuel := cs.length + 1
    match skipLines fuel cs with
    | [] => .ok r
    | '[' :: '[' :: inner => do
      let left := inner.length + 2
      let (path, rest) ← orError ⟨.header, left⟩ (key? fuel inner)
      match rest with
      | ']' :: ']' :: rest =>
        if endsLine rest then
          statements n (← orError ⟨r.duplicate path, left⟩ (openElement path r)) rest
        else .error ⟨.header, left⟩
      | _ => .error ⟨.header, left⟩
    | '[' :: inner => do
      let left := inner.length + 1
      let (path, rest) ← orError ⟨.header, left⟩ (key? fuel inner)
      match rest with
      | ']' :: rest =>
        if endsLine rest then
          statements n (← orError ⟨r.duplicate path, left⟩ (openTable path r)) rest
        else .error ⟨.header, left⟩
      | _ => .error ⟨.header, left⟩
    | cs => do
      let (key, rest) ← orError (statementError cs) (key? fuel cs)
      match rest with
      | '=' :: rest =>
        let text := skipSpace rest
        let (v, rest) ← orError (valueError cs.length text) (value? fuel text)
        if endsLine rest then
          statements n { r with
            root := ← orError ⟨.duplicateKey, cs.length⟩ (update (putNew key v) r.path r.root) } rest
        else .error ⟨.trailing, cs.length⟩
      | _ => .error (statementError cs)

/-- The words for an error in a text: the problem, and the line, the column and the character
where it shows. -/
def ReadError.message (cs : List Char) (e : ReadError) : String :=
  let position := cs.length - e.left
  let before := cs.take position
  let line := before.count '\n' + 1
  let column := (before.reverse.takeWhile (· != '\n')).length + 1
  e.problem.message ++ " (line " ++ toString line ++ " column " ++ toString column ++ " char " ++
    toString position ++ ")"

/-- The table that a text holds, or the words for why it cannot be read. -/
def read (s : String) : Except String (List (String × Value)) :=
  let cs := unifyNewlines s.toList
  match statements (cs.length + 1) {} cs with
  | .ok r => .ok r.root
  | .error e => .error (e.message cs)

end WebClip.Toml
