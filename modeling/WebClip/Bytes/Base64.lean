/-!
# Base64

Four characters stand for three bytes. The decoder is lenient: characters outside
the alphabet are passed over, and what follows complete padding is not read.
-/

namespace WebClip.Base64

/-- The value of a character of the alphabet. -/
def digitValue? (c : Char) : Option Nat :=
  if 'A' ≤ c && c ≤ 'Z' then some (c.toNat - 'A'.toNat)
  else if 'a' ≤ c && c ≤ 'z' then some (c.toNat - 'a'.toNat + 26)
  else if '0' ≤ c && c ≤ '9' then some (c.toNat - '0'.toNat + 52)
  else if c == '+' then some 62
  else if c == '/' then some 63
  else none

/-- Why a text is no base64. -/
inductive DecodeError where
  | notAscii
  | padding
  /-- The number of characters of the alphabet is one more than a multiple of four. -/
  | length (characters : Nat)

/-- What a message says about the error. -/
def DecodeError.message : DecodeError → String
  | notAscii => "string argument should contain only ASCII characters"
  | padding => "Incorrect padding"
  | length n =>
    "Invalid base64-encoded string: number of data characters (" ++ toString n ++
      ") cannot be 1 more than a multiple of 4"

/-- How far the current group of four is: what of it is still to be written out. -/
inductive Group where
  | start
  | one (bits : Nat)
  | two (bits : Nat)
  | three (bits : Nat)

/-- Decode from within a group, after `pads` padding signs and `groups` whole groups. -/
def decodeFrom (g : Group) (pads groups : Nat) : List Char → Except DecodeError (List UInt8)
  | [] =>
    match g with
    | .start => .ok []
    | .one _ => .error (.length (4 * groups + 1))
    | _ => .error .padding
  | c :: rest =>
    if c == '=' then
      match g with
      | .two _ => if pads + 1 ≥ 2 then .ok [] else decodeFrom g (pads + 1) groups rest
      | .three _ => .ok []
      | _ => decodeFrom g pads groups rest
    else match digitValue? c with
      | none => decodeFrom g pads groups rest
      | some v =>
        match g with
        | .start => decodeFrom (.one v) 0 groups rest
        | .one b =>
          (decodeFrom (.two (v % 16)) 0 groups rest).map (UInt8.ofNat (b * 4 + v / 16) :: ·)
        | .two b =>
          (decodeFrom (.three (v % 4)) 0 groups rest).map (UInt8.ofNat (b * 16 + v / 4) :: ·)
        | .three b =>
          (decodeFrom .start 0 (groups + 1) rest).map (UInt8.ofNat (b * 64 + v) :: ·)

/-- The bytes that a text stands for. -/
def decode (cs : List Char) : Except DecodeError (List UInt8) :=
  if cs.all fun c => c.toNat < 128 then decodeFrom .start 0 0 cs else .error .notAscii

end WebClip.Base64
