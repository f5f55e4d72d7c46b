import WebClip.Html.ReferenceNames
import WebClip.Text.Digit
/-!
# Character references

A reference is an ampersand with a number or a name behind it. `decode` replaces
every reference of a text by what it stands for and leaves an ampersand alone that
starts none. Old names need no semicolon: of such a text the longest name counts.
-/

namespace WebClip.Html

open WebClip.Text

/-- The value of a digit of base sixteen. -/
def hexValue (c : Char) : Nat :=
  if c.isDigit then c.toNat - '0'.toNat
  else if 'a' ≤ c && c ≤ 'f' then c.toNat - 'a'.toNat + 10
  else if 'A' ≤ c && c ≤ 'F' then c.toNat - 'A'.toNat + 10
  else 0

/-- A digit of base sixteen. -/
def isHexDigit (c : Char) : Bool :=
  c.isDigit || ('a' ≤ c && c ≤ 'f') || ('A' ≤ c && c ≤ 'F')

/-- The value of digits in a base. -/
def numberIn (base : Nat) (cs : List Char) : Nat :=
  cs.foldl (fun n c => base * n + hexValue c) 0

/-- What the codes 128 to 159 stand for in the code page of old documents. -/
def oldCodes : List Nat :=
  [0x20AC, 0x81, 0x201A, 0x192, 0x201E, 0x2026, 0x2020, 0x2021, 0x2C6, 0x2030, 0x160, 0x2039, 0x152,
   0x8D, 0x17D, 0x8F, 0x90, 0x2018, 0x2019, 0x201C, 0x201D, 0x2022, 0x2013, 0x2014, 0x2DC, 0x2122,
   0x161, 0x203A, 0x153, 0x9D, 0x17E, 0x178]

/-- A code of the code page of old documents. -/
def oldCode (n : Nat) : Nat := if 0x80 ≤ n && n ≤ 0x9F then oldCodes.getD (n - 0x80) n else n

/-- A code that a text may not hold. -/
def isForbidden (n : Nat) : Bool :=
  (1 ≤ n && n ≤ 8) || (0xB ≤ n && n ≤ 0x1F && n != 0xC && n != 0xD) || n == 0x7F ||
    (0xFDD0 ≤ n && n ≤ 0xFDEF) || n % 0x10000 ≥ 0xFFFE

/-- The text of a numbered reference; forbidden codes stand for nothing. -/
def numbered (n : Nat) : List Char :=
  if n = 0 || (0xD800 ≤ n && n ≤ 0xDFFF) || n > 0x10FFFF then ['\uFFFD']
  else if 0x80 ≤ n && n ≤ 0x9F then [Char.ofNat (oldCode n)]
  else if isForbidden n then []
  else [Char.ofNat n]

/-- A character that may stand in the name of a reference. -/
def isNameChar (c : Char) : Bool :=
  !(c == '\t' || c == '\n' || c == '\x0c' || c == ' ' || c == '<' || c == '&' || c == '#' || c == ';')

/-- The longest of the first `n` starts of a name, of two characters or more, that is
itself a name, with what it stands for and the characters it leaves. -/
def longestName (name : List Char) : Nat → Option (List Char)
  | 0 => none
  | n + 1 =>
    if n + 1 < 2 then none
    else match namedReference? (String.ofList (name.take (n + 1))) with
      | some text => some (text.toList ++ name.drop (n + 1))
      | none => longestName name n

/-- The text of a named reference; a name that is none stands for itself. -/
def named (name : List Char) : List Char :=
  match namedReference? (String.ofList name) with
  | some text => text.toList
  | none => (longestName name (name.length - 1)).getD ('&' :: name)

/-- How long a run is together with a semicolon behind it. -/
def withSemicolon (run : List Char) (cs : List Char) : Nat :=
  run.length + if (cs.drop run.length).head? == some ';' then 1 else 0

/-- The reference behind an ampersand: its text, and how many characters it takes. -/
def reference? (cs : List Char) : Option (List Char × Nat) :=
  match cs with
  | '#' :: rest =>
    let body := rest.drop 1
    let hex := body.takeWhile isHexDigit
    let dec := rest.takeWhile Char.isDigit
    if (rest.head? == some 'x' || rest.head? == some 'X') && !hex.isEmpty then
      some (numbered (numberIn 16 hex), 2 + withSemicolon hex body)
    else if !dec.isEmpty then some (numbered (numberIn 10 dec), 1 + withSemicolon dec rest)
    else none
  | _ =>
    let name := (cs.take 32).takeWhile isNameChar
    if name.isEmpty then none
    else
      let size := withSemicolon name cs
      some (named (cs.take size), size)

/-- Decode what follows the characters that a reference has already taken. -/
def decodeAfter : Nat → List Char → List Char
  | _, [] => []
  | taken + 1, _ :: rest => decodeAfter taken rest
  | 0, c :: rest =>
    if c == '&' then
      match reference? rest with
      | some (text, size) => text ++ decodeAfter size rest
      | none => c :: decodeAfter 0 rest
    else c :: decodeAfter 0 rest

/-- A text with every character reference replaced by what it stands for. -/
def decode (cs : List Char) : List Char := decodeAfter 0 cs

/-- The most digits a decimal reference may have. -/
def maxReferenceDigits : Nat := 4300

/-- How many digits the first decimal reference with too many of them has. -/
def oversized? : List Char → Option Nat
  | [] => none
  | c :: rest =>
    let digits := (rest.drop 1).takeWhile Char.isDigit
    if c == '&' && rest.head? == some '#' && digits.length > maxReferenceDigits then
      some digits.length
    else oversized? rest

/-! ## Small laws -/

/-- A text without an ampersand holds no reference. -/
theorem decode_of_no_ampersand {cs : List Char} (h : '&' ∉ cs) : decode cs = cs := by
  unfold decode
  induction cs with
  | nil => rfl
  | cons c rest ih =>
    have hc : (c == '&') = false := by
      simp only [beq_eq_false_iff_ne, ne_eq]; rintro rfl; exact h (by simp)
    simp [decodeAfter, hc, ih fun hm => h (by simp [hm])]

end WebClip.Html
