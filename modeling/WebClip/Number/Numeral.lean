import WebClip.Text.Blank
import WebClip.Text.Digit
import WebClip.Number.Shortest
/-!
# Numerals

Reading whole numbers and floating-point numbers from text. White space around a
numeral, a sign, digits of any script and single underscores between digits are
accepted.
-/

namespace WebClip.Number

open WebClip.Text

/-- White space around a numeral: the wide set without the separators U+001C to U+001F. -/
def isGap (c : Char) : Bool := isBlank c && !(28 ≤ c.toNat && c.toNat ≤ 31)

/-- A text without white space around it, digits of any script as ASCII digits. -/
def plainDigits (cs : List Char) : List Char :=
  (trimWhile isGap cs).map fun c => match digitValue? c with
    | some d => Nat.digitChar d
    | none => c

/-- The sign at the start, and what follows it. -/
def takeSign : List Char → Bool × List Char
  | '-' :: rest => (true, rest)
  | '+' :: rest => (false, rest)
  | cs => (false, cs)

/-- The digits of a numeral without the underscores, which must stand singly between digits. -/
def ungrouped : List Char → Option (List Char)
  | [] => some []
  | '_' :: _ => none
  | [c] => some [c]
  | c :: '_' :: d :: rest =>
    if c.isDigit && d.isDigit then (ungrouped (d :: rest)).map (c :: ·) else none
  | c :: d :: rest => (ungrouped (d :: rest)).map (c :: ·)
termination_by cs => cs.length

/-- The value of a list of ASCII digits. -/
def digitsValue (cs : List Char) : Nat :=
  cs.foldl (fun n c => 10 * n + (c.toNat - '0'.toNat)) 0

/-- Why a text is no whole number. -/
inductive NumeralError where
  | notANumeral
  | tooLong (digits : Nat)

/-- The most digits a whole number may have. -/
def maxDigits : Nat := 4300

/-- Read a whole number. -/
def readInt (cs : List Char) : Except NumeralError Int :=
  let (negative, body) := takeSign (plainDigits cs)
  match ungrouped body with
  | none => .error .notANumeral
  | some digits =>
    if digits.isEmpty || !digits.all Char.isDigit then .error .notANumeral
    else if digits.length > maxDigits then .error (.tooLong digits.length)
    else .ok (if negative then -(digitsValue digits : Int) else digitsValue digits)

/-- `m * 10 ^ e`, rounded to the nearest floating-point number. -/
def ofDecimal (negative : Bool) (m : Nat) (e : Int) : Float :=
  let size := (Nat.toDigits 10 m).length
  let x : Float :=
    if m = 0 then 0.0
    else if e + size > 400 then 1.0 / 0.0
    else if e + size < -400 then 0.0
    else if e < 0 then Float.ofScientific m true e.natAbs
    else Float.ofScientific (m * Nat.pow 10 e.natAbs) false 0
  if negative then -x else x

/-- Digits with an optional point among them: the digits and how many follow the point. -/
def readPoint (cs : List Char) : Option (List Char × Nat) :=
  let whole := cs.takeWhile Char.isDigit
  match cs.dropWhile Char.isDigit with
  | [] => if whole.isEmpty then none else some (whole, 0)
  | '.' :: fraction =>
    if fraction.all Char.isDigit && !(whole.isEmpty && fraction.isEmpty) then
      some (whole ++ fraction, fraction.length)
    else none
  | _ => none

/-- Read an unsigned decimal number with an optional exponent. -/
def readDecimal (negative : Bool) (cs : List Char) : Option Float := do
  let mantissa := cs.takeWhile fun c => c != 'e' && c != 'E'
  let (digits, places) ← readPoint mantissa
  let exponent ← match cs.drop mantissa.length with
    | [] => pure 0
    | _ :: rest =>
      let (below, size) := takeSign rest
      if size.isEmpty || !size.all Char.isDigit then none
      else pure (if below then -(digitsValue size : Int) else (digitsValue size : Int))
  pure (ofDecimal negative (digitsValue digits) (exponent - places))

/-- Read a floating-point number; infinity and not-a-number are written in letters of any case. -/
def readFloat (cs : List Char) : Option Float := do
  let body ← ungrouped (plainDigits cs)
  let (negative, body) := takeSign body
  let word := String.ofList (body.map Char.toLower)
  if word == "inf" || word == "infinity" then
    pure (if negative then -(1.0 / 0.0) else 1.0 / 0.0)
  else if word == "nan" then pure (0.0 / 0.0)
  else readDecimal negative body

/-- The least whole number that rounds to no floating-point number. -/
@[irreducible]
def tooLarge : Nat := Nat.pow 2 1024 - Nat.pow 2 970

/-- A whole number as a floating-point number, rounded to nearest; none when it is too large. -/
def ofInt? (n : Int) : Option Float :=
  if n.natAbs ≥ tooLarge then none
  else
    let x := Float.ofScientific n.natAbs false 0
    some (if n < 0 then -x else x)

/-- Why a floating-point number is no whole number. -/
inductive WholeError where
  | nan
  | infinite

/-- The whole number left after dropping the places behind the point. -/
def truncate (x : Float) : Except WholeError Int :=
  match parts x with
  | .nan => .error .nan
  | .infinite _ => .error .infinite
  | .finite negative m q =>
    let whole : Nat := if q < 0 then m / Nat.pow 2 q.natAbs else m * Nat.pow 2 q.natAbs
    .ok (if negative then -(whole : Int) else whole)

end WebClip.Number
