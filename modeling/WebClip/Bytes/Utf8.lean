/-!
# UTF-8

Reading bytes as text: strictly, or with the replacement character for every stretch
of bytes that starts no character.
-/

namespace WebClip.Utf8

/-- The text of bytes that are UTF-8. -/
def decode? (bytes : ByteArray) : Option String := String.fromUTF8? bytes

/-- How many bytes a character has that starts with a byte, and the least and the greatest
second byte it may have. -/
def shape (b : Nat) : Option (Nat × Nat × Nat) :=
  if b ≤ 0x7F then some (1, 0, 0)
  else if 0xC2 ≤ b && b ≤ 0xDF then some (2, 0x80, 0xBF)
  else if b == 0xE0 then some (3, 0xA0, 0xBF)
  else if b == 0xED then some (3, 0x80, 0x9F)
  else if 0xE1 ≤ b && b ≤ 0xEF then some (3, 0x80, 0xBF)
  else if b == 0xF0 then some (4, 0x90, 0xBF)
  else if 0xF1 ≤ b && b ≤ 0xF3 then some (4, 0x80, 0xBF)
  else if b == 0xF4 then some (4, 0x80, 0x8F)
  else none

/-- How many of the bytes behind the first belong to its character. -/
def follow (size low high : Nat) (rest : List UInt8) : Nat :=
  match rest with
  | [] => 0
  | b :: more =>
    if size < 2 || !(low ≤ b.toNat && b.toNat ≤ high) then 0
    else 1 + ((more.take (size - 2)).takeWhile fun b => 0x80 ≤ b.toNat && b.toNat ≤ 0xBF).length

/-- The character of a first byte and the bytes that follow it. -/
def assemble (size first : Nat) (more : List UInt8) : Char :=
  let lead := if size = 1 then first else first % Nat.pow 2 (7 - size)
  Char.ofNat (more.foldl (fun n b => n * 64 + b.toNat % 64) lead)

/-- The text of the bytes behind those already taken, with replacement characters. -/
def lenientFrom : Nat → List UInt8 → List Char
  | _, [] => []
  | taken + 1, _ :: rest => lenientFrom taken rest
  | 0, b :: rest =>
    match shape b.toNat with
    | none => '\uFFFD' :: lenientFrom 0 rest
    | some (size, low, high) =>
      let n := follow size low high rest
      if n + 1 = size then assemble size b.toNat (rest.take n) :: lenientFrom n rest
      else '\uFFFD' :: lenientFrom n rest

/-- The text of bytes, with replacement characters where they are not UTF-8. -/
def lenient (bytes : ByteArray) : String :=
  match decode? bytes with
  | some s => s
  | none => String.ofList (lenientFrom 0 bytes.toList)

end WebClip.Utf8
