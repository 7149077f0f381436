import BoardViews.Number.Binary64

/-
  Extended numbers: floating point with a mantissa of 64 bits, for the steps in between when
  numbers are read and written. Every operation gives the number nearest to the exact result, a
  tie goes to the even mantissa. Only numbers that are not negative are needed, and exponents have
  no bounds.
-/

namespace BoardViews

/-- The number m·2^e. -/
structure Extended where
  mantissa : Nat
  exponent : Int
  deriving DecidableEq, Repr

namespace Extended

/-- The exponent at which `num / den` has a mantissa of 64 bits. -/
def exponentOf (num den : Nat) : Int :=
  let guess := (num.log2 : Int) - den.log2 - 64
  let s := Binary64.scaled num den guess
  if s.1 / s.2 < Nat.pow 2 64 then guess else guess + 1

/-- The number nearest to `num / den`. -/
def ofRatio (num den : Nat) : Extended :=
  let e := exponentOf num den
  let s := Binary64.scaled num den e
  ⟨Binary64.roundQuotient s.1 s.2, e⟩

/-- A number as a fraction. -/
def ratio (x : Extended) : Nat × Nat := Binary64.scaled x.mantissa 1 (-x.exponent)

/-- A natural number, rounded. -/
def ofNat (n : Nat) : Extended := ofRatio n 1

/-- The number nearest to the decimal digits · 10^exponent as a 64 bit number, which is what a
constant stands for. -/
def constant (digits : Nat) (exponent : Int) : Extended :=
  match Binary64.ofDecimal false digits exponent with
  | .finite _ m e => ⟨m, e⟩
  | _ => ⟨0, 0⟩

/-- The sum. -/
def add (x y : Extended) : Extended :=
  let (a, b) := x.ratio
  let (c, d) := y.ratio
  ofRatio (a * d + c * b) (b * d)

/-- What is left of a number without its integer part. -/
def fraction (x : Extended) : Extended :=
  let (a, b) := x.ratio
  ofRatio (a % b) b

/-- The product. -/
def mul (x y : Extended) : Extended :=
  let (a, b) := x.ratio
  let (c, d) := y.ratio
  ofRatio (a * c) (b * d)

/-- The quotient. -/
def div (x y : Extended) : Extended :=
  let (a, b) := x.ratio
  let (c, d) := y.ratio
  ofRatio (a * d) (b * c)

/-- Whether a number is at most another. -/
def atMost (x y : Extended) : Bool :=
  let (a, b) := x.ratio
  let (c, d) := y.ratio
  a * d ≤ c * b

/-- The integer part. -/
def floor (x : Extended) : Nat := x.ratio.1 / x.ratio.2

/-- The nearest number of 64 bits, of the given sign. -/
def toBinary64 (negative : Bool) (x : Extended) : Binary64 :=
  Binary64.ofRatio negative x.ratio.1 x.ratio.2

/-- The product, rounded to 64 bits at once. -/
def product64 (negative : Bool) (x y : Extended) : Binary64 :=
  Binary64.ofRatio negative (x.ratio.1 * y.ratio.1) (x.ratio.2 * y.ratio.2)

/-- The quotient, rounded to 64 bits at once. -/
def quotient64 (negative : Bool) (x y : Extended) : Binary64 :=
  Binary64.ofRatio negative (x.ratio.1 * y.ratio.2) (x.ratio.2 * y.ratio.1)

/-- Ten to a power, by repeated squaring. -/
def tenTo (power : Nat) : Extended :=
  go (power.log2 + 1) power (ofNat 10) (ofNat 1)
where
  /-- The product of `acc` and the power of `x`. -/
  go : Nat → Nat → Extended → Extended → Extended
    | 0, _, _, acc => acc
    | fuel + 1, n, x, acc => go fuel (n / 2) (x.mul x) (if n % 2 = 1 then acc.mul x else acc)

end Extended

end BoardViews
