import WebClip.Number.Numeral
import WebClip.Value.Number
/-!
# Reading JSON

The usual format, with three words for numbers that are none. A key that stands twice
keeps its first place and its last value.
-/

namespace WebClip.Json

open Text

/-- Why a text cannot be read. -/
inductive ReadError where
  | malformed
  /-- A whole number has too many digits. -/
  | oversized (digits : Nat)

/-- White space between tokens. -/
def isSpace (c : Char) : Bool := c == ' ' || c == '\t' || c == '\n' || c == '\r'

/-- A text behind the white space at its start. -/
def skip (cs : List Char) : List Char := cs.dropWhile isSpace

/-- The value of a digit in base sixteen. -/
def hexValue? (c : Char) : Option Nat :=
  if c.isDigit then some (c.toNat - '0'.toNat)
  else if 'a' ≤ c && c ≤ 'f' then some (c.toNat - 'a'.toNat + 10)
  else if 'A' ≤ c && c ≤ 'F' then some (c.toNat - 'A'.toNat + 10)
  else none

/-- Four digits in base sixteen, and what follows them. -/
def unit? : List Char → Option (Nat × List Char)
  | a :: b :: c :: d :: rest => do
    pure (4096 * (← hexValue? a) + 256 * (← hexValue? b) + 16 * (← hexValue? c) + (← hexValue? d), rest)
  | _ => none

/-- The character that a letter stands for behind a backslash. -/
def escaped? (c : Char) : Option Char :=
  match c with
  | '"' | '\\' | '/' => some c
  | 'b' => some '\x08'
  | 'f' => some '\x0c'
  | 'n' => some '\n'
  | 'r' => some '\r'
  | 't' => some '\t'
  | _ => none

/-- The character of one or two units behind `\u`, and what follows; half a pair is replaced. -/
def unicode? (cs : List Char) : Option (Char × List Char) :=
  match unit? cs with
  | none => none
  | some (high, rest) =>
    let single : Char := if 0xD800 ≤ high && high < 0xE000 then '\ufffd' else Char.ofNat high
    if 0xD800 ≤ high && high < 0xDC00 then
      match rest with
      | '\\' :: 'u' :: more =>
        match unit? more with
        | some (low, behind) =>
          if 0xDC00 ≤ low && low < 0xE000 then
            some (Char.ofNat (0x10000 + 1024 * (high - 0xD800) + (low - 0xDC00)), behind)
          else some (single, rest)
        | none => none
      | _ => some (single, rest)
    else some (single, rest)

/-- The characters of a string behind its quote, and what follows it. -/
def string? : Nat → List Char → Option (List Char × List Char)
  | 0, _ => none
  | _, [] => none
  | n + 1, c :: rest =>
    if c == '"' then some ([], rest)
    else if c == '\\' then
      match rest with
      | 'u' :: more =>
        match unicode? more with
        | some (d, rest) => (string? n rest).map fun (s, r) => (d :: s, r)
        | none => none
      | d :: rest =>
        match escaped? d with
        | some d => (string? n rest).map fun (s, r) => (d :: s, r)
        | none => none
      | [] => none
    else if c.toNat < 32 then none
    else (string? n rest).map fun (s, r) => (c :: s, r)

/-- The digits behind a mark, if there are any. -/
def marked (isMark : Char → Bool) (signed : Bool) (cs : List Char) : List Char × List Char :=
  match cs with
  | [] => ([], cs)
  | c :: rest =>
    if isMark c then
      let sign := if signed then rest.takeWhile (fun d => d == '+' || d == '-') else []
      let digits := (rest.drop sign.length).takeWhile Char.isDigit
      if sign.length ≤ 1 && !digits.isEmpty then
        (c :: (sign ++ digits), rest.drop (sign.length + digits.length))
      else ([], cs)
    else ([], cs)

/-- The digits before the point: zero alone, or some that start with another. -/
def wholeDigits (cs : List Char) : List Char :=
  match cs with
  | '0' :: _ => ['0']
  | _ => cs.takeWhile Char.isDigit

/-- A number, and what follows it. -/
def number? (cs : List Char) : Except ReadError (Value × List Char) :=
  let (sign, body) := match cs with
    | '-' :: rest => (['-'], rest)
    | _ => ([], cs)
  let whole := wholeDigits body
  if whole.isEmpty then .error .malformed
  else
    let (fraction, rest) := marked (· == '.') false (body.drop whole.length)
    let (exponent, rest) := marked (fun c => c == 'e' || c == 'E') true rest
    if fraction.isEmpty && exponent.isEmpty then
      match Number.readInt (sign ++ whole) with
      | .ok n => .ok (.int n, rest)
      | .error (.tooLong digits) => .error (.oversized digits)
      | .error .notANumeral => .error .malformed
    else match Number.readFloat (sign ++ whole ++ fraction ++ exponent) with
      | some x => .ok (.float x, rest)
      | none => .error .malformed

/-- The words that are values. -/
def literals : List (String × Value) :=
  [("null", .null), ("true", .bool true), ("false", .bool false), ("NaN", .float (0.0 / 0.0)),
   ("Infinity", .float (1.0 / 0.0)), ("-Infinity", .float (-1.0 / 0.0))]

/-- A word or a number, and what follows it. -/
def scalar? (cs : List Char) : Except ReadError (Value × List Char) :=
  match literals.find? fun l => startsWith l.1.toList cs with
  | some (word, v) => .ok (v, cs.drop word.length)
  | none => number? cs

mutual

/-- A value, and what follows it. -/
def value? : Nat → List Char → Except ReadError (Value × List Char)
  | 0, _ => .error .malformed
  | n + 1, cs =>
    match cs with
    | '"' :: rest =>
      match string? (rest.length + 1) rest with
      | some (s, rest) => .ok (.text (String.ofList s), rest)
      | none => .error .malformed
    | '[' :: rest =>
      match skip rest with
      | ']' :: rest => .ok (.list [], rest)
      | rest => (items? n rest).map fun (vs, r) => (.list vs, r)
    | '\x7b' :: rest =>
      match skip rest with
      | '\x7d' :: rest => .ok (.record [], rest)
      | rest => (fields? n rest).map fun (fs, r) => (.record (ofPairs fs), r)
    | cs => scalar? cs

/-- The items of a list up to its end, and what follows it. -/
def items? : Nat → List Char → Except ReadError (List Value × List Char)
  | 0, _ => .error .malformed
  | n + 1, cs => do
    let (v, rest) ← value? n cs
    match skip rest with
    | ']' :: rest => pure ([v], rest)
    | ',' :: rest => do
      let (vs, rest) ← items? n (skip rest)
      pure (v :: vs, rest)
    | _ => throw .malformed

/-- The fields of a record up to its end, and what follows it. -/
def fields? : Nat → List Char → Except ReadError (List (String × Value) × List Char)
  | 0, _ => .error .malformed
  | n + 1, cs => do
    let (key, rest) ← match cs with
      | '"' :: rest =>
        match string? (rest.length + 1) rest with
        | some (key, rest) => pure (String.ofList key, rest)
        | none => throw .malformed
      | _ => throw .malformed
    let rest ← match skip rest with
      | ':' :: rest => pure (skip rest)
      | _ => throw .malformed
    let (v, rest) ← value? n rest
    match skip rest with
    | '\x7d' :: rest => pure ([(key, v)], rest)
    | ',' :: rest => do
      let (fs, rest) ← fields? n (skip rest)
      pure ((key, v) :: fs, rest)
    | _ => throw .malformed

end

/-- The value that a text holds. -/
def read (s : String) : Except ReadError Value := do
  let cs := s.toList
  let (v, rest) ← value? (cs.length + 1) (skip cs)
  if (skip rest).isEmpty then pure v else throw .malformed

/-- The fault of a text that cannot be read. -/
def ReadError.toFault : ReadError → Fault
  | malformed => .notJson
  | oversized digits => Value.tooManyDigits digits

end WebClip.Json
