import WebClip.Fault
import WebClip.Number.Numeral
import WebClip.Value.Display
/-!
# Written values

The text of a value where writing it may fail: a whole number is written out only with so
many digits, also where it stands inside a list or a record.
-/

namespace WebClip.Value

mutual

/-- Whether no whole number in a value has too many digits to be written out. -/
def isWritable : Value → Bool
  | int n => n.natAbs < Nat.pow 10 Number.maxDigits
  | list items => areWritable items
  | record fields => haveWritable fields
  | _ => true

/-- Whether that holds of all items of a list. -/
def areWritable : List Value → Bool
  | [] => true
  | v :: rest => isWritable v && areWritable rest

/-- Whether that holds of all fields of a record. -/
def haveWritable : List (String × Value) → Bool
  | [] => true
  | (_, v) :: rest => isWritable v && haveWritable rest

end

/-- Why a whole number cannot be written out. -/
def unwritable : Fault :=
  .badValue ("Exceeds the limit (" ++ toString Number.maxDigits ++
    " digits) for integer string conversion; use sys.set_int_max_str_digits() to increase the limit")

/-- The text of a value. -/
def written (v : Value) : Except Fault String := if v.isWritable then .ok v.display else .error unwritable

/-- The text of a value as a message quotes it. -/
def writtenQuoted (v : Value) : Except Fault String := if v.isWritable then .ok v.quoted else .error unwritable

end WebClip.Value
