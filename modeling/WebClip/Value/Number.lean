import WebClip.Fault
import WebClip.Number.Numeral
import WebClip.Value.Display
/-!
# Values as numbers

Where a number is wanted a boolean counts as zero or one and a text is read; every
other value is of the wrong kind.
-/

namespace WebClip.Value

/-- Why a number has too many digits to be read. -/
def tooManyDigits (digits : Nat) : Fault :=
  .badValue ("Exceeds the limit (" ++ toString Number.maxDigits ++
    " digits) for integer string conversion: value has " ++ toString digits ++
    " digits; use sys.set_int_max_str_digits() to increase the limit")

/-- A value as a whole number; places behind the point are dropped. -/
def toInt : Value → Except Fault Int
  | bool b => .ok (if b then 1 else 0)
  | int n => .ok n
  | float x =>
    match Number.truncate x with
    | .ok n => .ok n
    | .error .nan => .error (.badValue "cannot convert float NaN to integer")
    | .error .infinite => .error (.overflow "cannot convert float infinity to integer")
  | text s =>
    match Number.readInt s.toList with
    | .ok n => .ok n
    | .error .notANumeral =>
      .error (.badValue ("invalid literal for int() with base 10: " ++ Text.quoted s))
    | .error (.tooLong digits) => .error (tooManyDigits digits)
  | v => .error (.wrongKind
      ("int() argument must be a string, a bytes-like object or a real number, not '" ++
        v.kindName ++ "'"))

/-- A value as a floating-point number. -/
def toFloat : Value → Except Fault Float
  | bool b => .ok (if b then 1.0 else 0.0)
  | int n =>
    match Number.ofInt? n with
    | some x => .ok x
    | none => .error (.overflow "int too large to convert to float")
  | float x => .ok x
  | text s =>
    match Number.readFloat s.toList with
    | some x => .ok x
    | none => .error (.badValue ("could not convert string to float: " ++ Text.quoted s))
  | v => .error (.wrongKind ("float() argument must be a string or a real number, not '" ++
      v.kindName ++ "'"))

end WebClip.Value
