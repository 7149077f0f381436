import BoardViews.Text.Digit

/-
  Binary floating point numbers of 64 bits, as exact values. Every finite one is a natural number
  below 2^53 times a power of two from 2^-1074 to 2^971, with a sign. Rounding is to the nearest,
  a tie goes to the even mantissa, and all of it is integer arithmetic.
-/

namespace BoardViews

/-- A floating point number: `finite s m e` is m·2^e, negative if `s` holds. -/
inductive Binary64 where
  | finite (negative : Bool) (mantissa : Nat) (exponent : Int)
  | infinite (negative : Bool)
  | nan
  deriving DecidableEq, Repr

namespace Binary64

/-- The least exponent; numbers with fewer than 53 bits have it. -/
def minExponent : Int := -1074

/-- The greatest exponent. -/
def maxExponent : Int := 971

/-- Zero of either sign. -/
def zero (negative : Bool) : Binary64 := .finite negative 0 minExponent

/-- The quotient rounded to the nearest natural number, a half to the even one. -/
def roundQuotient (num den : Nat) : Nat :=
  let q := num / den
  let r := num % den
  if 2 * r < den ∨ (2 * r = den ∧ q % 2 = 0) then q else q + 1

/-- The fraction `num / den` divided by 2^e. -/
def scaled (num den : Nat) (e : Int) : Nat × Nat :=
  if 0 ≤ e then (num, den * Nat.pow 2 e.toNat) else (num * Nat.pow 2 (-e).toNat, den)

/-- The exponent at which `num / den` has a mantissa of 53 bits, or the least one. -/
def exponentOf (num den : Nat) : Int :=
  let guess := max ((num.log2 : Int) - den.log2 - 53) minExponent
  let s := scaled num den guess
  if s.1 / s.2 < Nat.pow 2 53 then guess else guess + 1

/-- The number nearest to `num / den`. -/
def ofRatio (negative : Bool) (num den : Nat) : Binary64 :=
  if num = 0 then zero negative
  else
    let e := exponentOf num den
    let s := scaled num den e
    let m := roundQuotient s.1 s.2
    let r : Nat × Int := if m = Nat.pow 2 53 then (Nat.pow 2 52, e + 1) else (m, e)
    if maxExponent < r.2 then .infinite negative else .finite negative r.1 r.2

/-- The number nearest to an integer fraction with a positive denominator. -/
def ofIntRatio (num : Int) (den : Nat) : Binary64 :=
  ofRatio (num < 0) num.natAbs den

/-- The number nearest to the decimal with these digits, scaled by 10^exponent. What is beyond
every finite number, or below the half of the least one, needs no power of ten. -/
def ofDecimal (negative : Bool) (digits : Nat) (exponent : Int) : Binary64 :=
  let size := (Text.digitCount digits : Int) + exponent
  if digits = 0 then zero negative
  else if 310 < size then .infinite negative
  else if size < -330 then zero negative
  else if 0 ≤ exponent then ofRatio negative (digits * Nat.pow 10 exponent.toNat) 1
  else ofRatio negative digits (Nat.pow 10 (-exponent).toNat)

/-- The number nearest to `k` times a number. -/
def scale (k : Nat) : Binary64 → Binary64
  | .finite s m e =>
    let r := scaled (k * m) 1 (-e)
    ofRatio s r.1 r.2
  | x => x

/-- The number nearest to the sum of two numbers. -/
def add : Binary64 → Binary64 → Binary64
  | .finite s m e, .finite t n f =>
    let g := min e f
    let sum := Text.signed s (m * Nat.pow 2 (e - g).toNat) +
      Text.signed t (n * Nat.pow 2 (f - g).toNat)
    let r := scaled sum.natAbs 1 (-g)
    ofRatio (sum < 0) r.1 r.2
  | .finite _ _ _, y => y
  | .infinite s, .infinite t => if s = t then .infinite s else .nan
  | .infinite s, .finite _ _ _ => .infinite s
  | .infinite _, .nan => .nan
  | .nan, _ => .nan

/-- A finite number counted in units of the least exponent, or a number beyond all of those. -/
def size : Binary64 → Int
  | .finite s m e => Text.signed s (m * Nat.pow 2 (e - minExponent).toNat)
  | .infinite s => Text.signed s (Nat.pow 2 2200)
  | .nan => 0

/-- The integer part of a finite number, rounded toward zero. -/
def truncate? : Binary64 → Option Int
  | .finite s m e =>
    let r := scaled m 1 (-e)
    some (Text.signed s (r.1 / r.2))
  | _ => none

/-- A finite number without a fraction, as an integer. -/
def toInt? : Binary64 → Option Int
  | .finite s m e =>
    let r := scaled m 1 (-e)
    if r.1 % r.2 = 0 then some (Text.signed s (r.1 / r.2)) else none
  | _ => none

end Binary64

end BoardViews
