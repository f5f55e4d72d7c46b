import WebClip.Bytes.Base64
import WebClip.Bytes.Percent
/-!
# Bytes and how they are written

Bytes are written in base64, four characters for every three of them, or percent-encoded, each of them by two
hexadecimal digits or, if it is an ASCII character, by itself. Either way they are read back as they were.
-/

namespace WebClip

/-! ## Base64 -/

namespace Base64

/-- The characters in the order of their values. -/
def alphabet : List Char := "ABCDEFGHIJKLMNOPQRSTUVWXYZabcdefghijklmnopqrstuvwxyz0123456789+/".toList

/-- The character of a value. -/
def digit (v : Nat) : Char := alphabet.getD v 'A'

/-- Bytes in base64, with padding behind a last group that is not whole. -/
def encode : List UInt8 → List Char
  | [] => []
  | [a] => [digit (a.toNat / 4), digit (a.toNat % 4 * 16), '=', '=']
  | [a, b] => [digit (a.toNat / 4), digit (a.toNat % 4 * 16 + b.toNat / 16), digit (b.toNat % 16 * 4), '=']
  | a :: b :: c :: rest =>
    digit (a.toNat / 4) :: digit (a.toNat % 4 * 16 + b.toNat / 16) :: digit (b.toNat % 16 * 4 + c.toNat / 64) ::
      digit (c.toNat % 64) :: encode rest

/-- A character of the alphabet is read as the value it is written for, and is no padding. -/
theorem digitValue?_digit {v : Nat} (h : v < 64) :
    digitValue? (digit v) = some v ∧ (digit v == '=') = false ∧ (digit v).toNat < 128 := by
  have hall : ∀ v < 64, digitValue? (digit v) = some v ∧ (digit v == '=') = false ∧ (digit v).toNat < 128 := by
    decide +kernel
  exact hall v h

section Groups
variable {v : Nat} (h : v < 64) (pads groups : Nat) (rest : List Char)
include h

theorem decodeFrom_start : decodeFrom .start pads groups (digit v :: rest) = decodeFrom (.one v) 0 groups rest := by
  obtain ⟨hvalue, hpad, -⟩ := digitValue?_digit h
  simp only [decodeFrom, hpad, hvalue, Bool.false_eq_true, if_false]

theorem decodeFrom_one (b : Nat) : decodeFrom (.one b) pads groups (digit v :: rest) =
    (decodeFrom (.two (v % 16)) 0 groups rest).map (UInt8.ofNat (b * 4 + v / 16) :: ·) := by
  obtain ⟨hvalue, hpad, -⟩ := digitValue?_digit h
  simp only [decodeFrom, hpad, hvalue, Bool.false_eq_true, if_false]

theorem decodeFrom_two (b : Nat) : decodeFrom (.two b) pads groups (digit v :: rest) =
    (decodeFrom (.three (v % 4)) 0 groups rest).map (UInt8.ofNat (b * 16 + v / 4) :: ·) := by
  obtain ⟨hvalue, hpad, -⟩ := digitValue?_digit h
  simp only [decodeFrom, hpad, hvalue, Bool.false_eq_true, if_false]

theorem decodeFrom_three (b : Nat) : decodeFrom (.three b) pads groups (digit v :: rest) =
    (decodeFrom .start 0 (groups + 1) rest).map (UInt8.ofNat (b * 64 + v) :: ·) := by
  obtain ⟨hvalue, hpad, -⟩ := digitValue?_digit h
  simp only [decodeFrom, hpad, hvalue, Bool.false_eq_true, if_false]

end Groups

/-- A byte is put together from the bits that its characters hold of it. -/
theorem ofNat_eq {n : Nat} {a : UInt8} (h : n = a.toNat) : UInt8.ofNat n = a := by
  rw [h, UInt8.ofNat_toNat]

theorem decodeFrom_encode (pads groups : Nat) (bytes : List UInt8) :
    decodeFrom .start pads groups (encode bytes) = .ok bytes := by
  fun_induction encode bytes generalizing pads groups with
  | case1 => rfl
  | case2 a =>
    have ha := a.toNat_lt
    rw [decodeFrom_start (by omega), decodeFrom_one (by omega), ofNat_eq (a := a) (by omega)]
    rfl
  | case3 a b =>
    have ha := a.toNat_lt
    have hb := b.toNat_lt
    rw [decodeFrom_start (by omega), decodeFrom_one (by omega), decodeFrom_two (by omega),
      ofNat_eq (a := a) (by omega), ofNat_eq (a := b) (by omega)]
    rfl
  | case4 a b c rest ih =>
    have ha := a.toNat_lt
    have hb := b.toNat_lt
    have hc := c.toNat_lt
    rw [decodeFrom_start (by omega), decodeFrom_one (by omega), decodeFrom_two (by omega), decodeFrom_three (by omega),
      ih, ofNat_eq (a := a) (by omega), ofNat_eq (a := b) (by omega), ofNat_eq (a := c) (by omega)]
    rfl

theorem ascii_encode (bytes : List UInt8) : ∀ c ∈ encode bytes, c.toNat < 128 := by
  have hdigit {v : Nat} (h : v < 64) : (digit v).toNat < 128 := (digitValue?_digit h).2.2
  have hpad : '='.toNat < 128 := by decide
  fun_induction encode bytes with
  | case1 => nofun
  | case2 a =>
    have ha := a.toNat_lt
    simp only [List.forall_mem_cons]
    exact ⟨hdigit (by omega), hdigit (by omega), hpad, hpad, nofun⟩
  | case3 a b =>
    have ha := a.toNat_lt
    have hb := b.toNat_lt
    simp only [List.forall_mem_cons]
    exact ⟨hdigit (by omega), hdigit (by omega), hdigit (by omega), hpad, nofun⟩
  | case4 a b c rest ih =>
    have ha := a.toNat_lt
    have hb := b.toNat_lt
    have hc := c.toNat_lt
    simp only [List.forall_mem_cons]
    exact ⟨hdigit (by omega), hdigit (by omega), hdigit (by omega), hdigit (by omega), ih⟩

theorem decode_encode (bytes : List UInt8) : decode (encode bytes) = .ok bytes := by
  have hascii : ((encode bytes).all fun c => decide (c.toNat < 128)) = true :=
    List.all_eq_true.2 fun c hc => decide_eq_true (ascii_encode bytes c hc)
  rw [decode, hascii]
  exact decodeFrom_encode 0 0 bytes

end Base64

/-! ## Percent encoding -/

namespace Percent

open WebClip.Html

/-- A character is the hexadecimal digit of a value, small or capital. -/
def IsDigitOf (n : Nat) (c : Char) : Prop :=
  "0123456789abcdef".toList[n]? = some c ∨ "0123456789ABCDEF".toList[n]? = some c

/-- A way to write bytes: each by its two digits, or as an ASCII character other than the percent sign. -/
inductive Writes : List UInt8 → List Char → Prop
  | nil : Writes [] []
  | kept {c : Char} {bytes cs} : c.toNat < 128 → c ≠ '%' → Writes bytes cs →
    Writes (UInt8.ofNat c.toNat :: bytes) (c :: cs)
  | escaped {b : UInt8} {high low : Char} {bytes cs} : IsDigitOf (b.toNat / 16) high → IsDigitOf (b.toNat % 16) low →
    Writes bytes cs → Writes (b :: bytes) ('%' :: high :: low :: cs)

theorem hexValue_of_isDigitOf {n : Nat} {c : Char} (h : IsDigitOf n c) : isHexDigit c = true ∧ hexValue c = n := by
  have hn : n < 16 := by
    rcases h with h | h
    · exact (List.getElem?_eq_some_iff.1 h).1
    · exact (List.getElem?_eq_some_iff.1 h).1
  have hdigits (digits : String)
      (hall : ∀ n < 16, (digits.toList[n]?.all fun c => isHexDigit c && hexValue c == n) = true)
      (hc : digits.toList[n]? = some c) : isHexDigit c = true ∧ hexValue c = n := by
    simpa [hc] using hall n hn
  rcases h with h | h
  · exact hdigits _ (by decide +kernel) h
  · exact hdigits _ (by decide +kernel) h

theorem decode_cons {c : Char} (hascii : c.toNat < 128) (hc : c ≠ '%') (rest : List Char) :
    decode (c :: rest) = UInt8.ofNat c.toNat :: decode rest := by
  have hbytes : String.utf8EncodeChar c = [UInt8.ofNat c.toNat] := by
    have hle : c.val.toNat ≤ 127 := Nat.le_of_lt_succ hascii
    simp only [String.utf8EncodeChar, if_pos hle]
    rfl
  rw [decode.eq_def]
  split
  next heq => exact absurd (List.cons.inj heq).1 hc
  next heq =>
    obtain ⟨rfl, rfl⟩ := List.cons.inj heq
    rw [hbytes, List.singleton_append]
  next heq => cases heq

/-- However bytes have been written, they are read back. -/
theorem decode_of_writes {bytes : List UInt8} {cs : List Char} (h : Writes bytes cs) : decode cs = bytes := by
  induction h with
  | nil => rw [decode]
  | kept hascii hc _ ih => rw [decode_cons hascii hc, ih]
  | @escaped b high low bytes cs hhigh hlow _ ih =>
    obtain ⟨hhex, hvalue⟩ := hexValue_of_isDigitOf hhigh
    obtain ⟨hhex', hvalue'⟩ := hexValue_of_isDigitOf hlow
    have hb : 16 * (b.toNat / 16) + b.toNat % 16 = b.toNat := Nat.div_add_mod _ _
    rw [decode, hhex, hhex', hvalue, hvalue', hb, ih, UInt8.ofNat_toNat]
    rfl

end Percent

end WebClip
