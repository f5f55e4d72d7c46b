import WebClip.Html.Reference
/-!
# Percent encoding

A percent sign and two hexadecimal digits stand for one byte; every other character
stands for the bytes of its UTF-8 form.
-/

namespace WebClip.Percent

open WebClip.Html

/-- The bytes that a text stands for. -/
def decode : List Char → List UInt8
  | '%' :: a :: b :: rest =>
    if isHexDigit a && isHexDigit b then
      UInt8.ofNat (16 * hexValue a + hexValue b) :: decode rest
    else String.utf8EncodeChar '%' ++ decode (a :: b :: rest)
  | c :: rest => String.utf8EncodeChar c ++ decode rest
  | [] => []

/-- A byte as a percent sign and two digits. -/
def encodeByte (b : UInt8) : List Char :=
  let digit (n : Nat) : Char := (Nat.digitChar n).toUpper
  ['%', digit (b.toNat / 16), digit (b.toNat % 16)]

/-- A character that stays as it is in a URL of a document. -/
def isKept (c : Char) : Bool :=
  c.isAlphanum || ['_', '.', '-', '~', ':', '/', '?', '#', '@', '!', '$', '&', '(', ')', '*', '+',
    ',', ';', '=', '%'].contains c

/-- A text with all but the characters that may stand in a URL encoded. -/
def encode (cs : List Char) : List Char :=
  cs.flatMap fun c => if isKept c then [c] else (String.utf8EncodeChar c).flatMap encodeByte

end WebClip.Percent
