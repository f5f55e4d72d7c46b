import WebClip.Number.Shortest
import WebClip.Value.Display
/-!
# Writing JSON

In ASCII with everything else escaped, each item and field on a line of its own, two
spaces deeper than what holds it.
-/

namespace WebClip.Json

/-- A unit of UTF-16 as an escape. -/
def unitText (n : Nat) : List Char := '\\' :: 'u' :: Text.hex 4 n

/-- A character within quotes. -/
def charText (c : Char) : List Char :=
  match c with
  | '"' => ['\\', '"']
  | '\\' => ['\\', '\\']
  | '\n' => ['\\', 'n']
  | '\r' => ['\\', 'r']
  | '\t' => ['\\', 't']
  | '\x0c' => ['\\', 'f']
  | '\x08' => ['\\', 'b']
  | _ =>
    let n := c.toNat
    if 32 ≤ n && n ≤ 126 then [c]
    else if n < 0x10000 then unitText n
    else unitText (0xD800 + (n - 0x10000) / 1024) ++ unitText (0xDC00 + (n - 0x10000) % 1024)

/-- A text within quotes. -/
def stringText (s : String) : String :=
  String.ofList ('"' :: (s.toList.flatMap charText ++ ['"']))

/-- A floating-point number. -/
def floatText (x : Float) : String :=
  match Number.parts x with
  | .nan => "NaN"
  | .infinite negative => if negative then "-Infinity" else "Infinity"
  | .finite .. => Number.floatText x

/-- The start of a line at a depth. -/
def lineStart (depth : Nat) : String := String.ofList ('\n' :: List.replicate (2 * depth) ' ')

mutual

/-- A value at a depth. -/
def valueText (depth : Nat) : Value → String
  | .null => "null"
  | .bool b => if b then "true" else "false"
  | .int n => toString n
  | .float x => floatText x
  | .text s | .shown s => stringText s
  | .list items =>
    if items.isEmpty then "[]"
    else "[" ++ ",".intercalate (itemTexts (depth + 1) items) ++ lineStart depth ++ "]"
  | .record fields =>
    if fields.isEmpty then "\x7b\x7d"
    else "\x7b" ++ ",".intercalate (fieldTexts (depth + 1) fields) ++ lineStart depth ++ "\x7d"

/-- Items, each on a line of its own. -/
def itemTexts (depth : Nat) : List Value → List String
  | [] => []
  | v :: rest => (lineStart depth ++ valueText depth v) :: itemTexts depth rest

/-- Fields, each on a line of its own. -/
def fieldTexts (depth : Nat) : List (String × Value) → List String
  | [] => []
  | (key, v) :: rest =>
    (lineStart depth ++ stringText key ++ ": " ++ valueText depth v) :: fieldTexts depth rest

end

/-- The text of a value. -/
def write (v : Value) : String := valueText 0 v

end WebClip.Json
