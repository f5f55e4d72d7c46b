/-!
# Shortest decimals

The decimal a floating-point number is written with: the fewest digits that
read back as the same number, and of the decimals with that many digits the one
nearest to it. The search is exact: the number is `m * 2 ^ q`, and everything is
compared as whole numbers.
-/

namespace WebClip.Number

/-- What the bits of a floating-point number say: its sign and the value `m * 2 ^ q`. -/
inductive Parts where
  | nan
  | infinite (negative : Bool)
  | finite (negative : Bool) (m : Nat) (q : Int)

/-- Read the sign, exponent and mantissa off the bits. -/
def parts (x : Float) : Parts :=
  let bits : Nat := x.toBits.toNat
  let negative := bits / Nat.pow 2 63 == 1
  let exponent : Nat := bits / Nat.pow 2 52 % Nat.pow 2 11
  let mantissa : Nat := bits % Nat.pow 2 52
  if exponent = 2047 then (if mantissa = 0 then .infinite negative else .nan)
  else if exponent = 0 then .finite negative mantissa (-1074)
  else .finite negative (Nat.pow 2 52 + mantissa) ((exponent : Int) - 1075)

/-- A positive fraction. -/
structure Fraction where
  num : Nat
  den : Nat

namespace Fraction

/-- `a * 2 ^ q`. -/
def scaled (a : Nat) (q : Int) : Fraction :=
  if q < 0 then ⟨a, Nat.pow 2 q.natAbs⟩ else ⟨a * Nat.pow 2 q.natAbs, 1⟩

/-- The fraction times `10 ^ k`. -/
def shift (f : Fraction) (k : Int) : Fraction :=
  if k < 0 then ⟨f.num, f.den * Nat.pow 10 k.natAbs⟩ else ⟨f.num * Nat.pow 10 k.natAbs, f.den⟩

end Fraction

/-- The decimal exponent of a fraction below one: the least shift that brings it to one or more. -/
def exponentBelowOne (f : Fraction) : Nat → Nat → Int
  | 0, k => -(k : Int)
  | fuel + 1, k => if f.den ≤ f.num * Nat.pow 10 k then -(k : Int) else exponentBelowOne f fuel (k + 1)

/-- The decimal exponent: the position of the first digit, zero for the ones. -/
def decimalExponent (f : Fraction) : Int :=
  let whole := f.num / f.den
  if whole = 0 then exponentBelowOne f 400 1 else (Nat.toDigits 10 whole).length - 1

/-- A decimal: its digits, the first one at the position `exponent`. -/
structure Decimal where
  digits : Nat
  count : Nat
  exponent : Int

/-- The decimal on the grid of `count` digits that lies within the bounds and is nearest
to the value; of two equally near ones the even one. The bounds themselves count when
`closed` says so. -/
def onGrid (value low high : Fraction) (closed : Bool) (exponent : Int) (count : Nat) :
    Option Decimal :=
  let k := (count : Int) - 1 - exponent
  let v := value.shift k
  let lo := low.shift k
  let hi := high.shift k
  let within (d : Nat) : Bool :=
    if closed then lo.num ≤ d * lo.den && d * hi.den ≤ hi.num
    else lo.num < d * lo.den && d * hi.den < hi.num
  let d := v.num / v.den
  let below := 2 * (v.num - d * v.den)
  let nearest := if below < v.den then [d, d + 1]
    else if v.den < below then [d + 1, d]
    else if d % 2 = 0 then [d, d + 1] else [d + 1, d]
  (nearest.find? within).map fun d =>
    if d = Nat.pow 10 count then ⟨1, 1, exponent + 1⟩ else ⟨d, count, exponent⟩

/-- The shortest decimal of `m * 2 ^ q` with `m` not zero. -/
def shortest (m : Nat) (q : Int) : Decimal :=
  let value := Fraction.scaled (4 * m) (q - 2)
  let low := Fraction.scaled (if m = Nat.pow 2 52 && q > -1074 then 4 * m - 1 else 4 * m - 2) (q - 2)
  let high := Fraction.scaled (4 * m + 2) (q - 2)
  let exponent := decimalExponent value
  ((List.range 17).findSome? fun i =>
    onGrid value low high (m % 2 == 0) exponent (i + 1)).getD ⟨m, 1, exponent⟩

/-- Digits without the zeros at their end. -/
def trimZeros (digits : List Char) : List Char :=
  (digits.reverse.dropWhile (· == '0')).reverse

/-- A decimal as text: positional from one ten-thousandth up to sixteen places before the
point and with at least one place after it, otherwise with an exponent of at least two digits. -/
def Decimal.toText (d : Decimal) : List Char :=
  let digits := trimZeros (Nat.toDigits 10 d.digits)
  if d.exponent < -4 || d.exponent ≥ 16 then
    let sign := if d.exponent < 0 then '-' else '+'
    let size := Nat.toDigits 10 d.exponent.natAbs
    let size := if size.length < 2 then '0' :: size else size
    let mantissa := match digits with
      | [] => ['0']
      | [c] => [c]
      | c :: rest => c :: '.' :: rest
    mantissa ++ 'e' :: sign :: size
  else if d.exponent < 0 then
    '0' :: '.' :: (List.replicate (d.exponent.natAbs - 1) '0' ++ digits)
  else
    let places := d.exponent.natAbs + 1
    let whole := digits.take places
    let whole := whole ++ List.replicate (places - whole.length) '0'
    let fraction := digits.drop places
    whole ++ '.' :: (if fraction.isEmpty then ['0'] else fraction)

/-- A floating-point number as text. -/
def floatText (x : Float) : String :=
  match parts x with
  | .nan => "nan"
  | .infinite negative => if negative then "-inf" else "inf"
  | .finite negative m q =>
    let body := if m = 0 then ['0', '.', '0'] else (shortest m q).toText
    String.ofList (if negative then '-' :: body else body)

end WebClip.Number
