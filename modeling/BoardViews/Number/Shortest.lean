import BoardViews.Number.Binary64

/-
  Floating point numbers as decimal text: the fewest digits that read back as the number, and of
  those the nearest. The search walks the decimal grids from coarse to fine; on each it tests the
  two neighbours of the number.
-/

namespace BoardViews

/-- The decimal digits · 10^exponent. -/
structure Decimal where
  digits : Nat
  exponent : Int
  deriving DecidableEq, Repr

namespace Binary64

/-- A positive number with the interval of reals that round to it, as `value / den` between
`low / den` and `high / den`; the ends belong to it if `closed` holds. -/
structure Neighbourhood where
  low : Nat
  value : Nat
  high : Nat
  den : Nat
  closed : Bool

/-- The neighbourhood of m·2^e. Below the least mantissa of an exponent the next number is half as
far away as above it. -/
def neighbourhood (m : Nat) (e : Int) : Neighbourhood :=
  let below := if m = Nat.pow 2 52 ∧ minExponent < e then 1 else 2
  let unit := scaled 1 1 (2 - e)
  { low := (4 * m - below) * unit.1, value := 4 * m * unit.1, high := (4 * m + 2) * unit.1,
    den := unit.2, closed := m % 2 = 0 }

namespace Neighbourhood

/-- The exponent k with 10^k ≤ value < 10^(k+1). -/
def magnitude (n : Neighbourhood) : Int :=
  if n.den ≤ n.value then (Text.digitCount (n.value / n.den) : Int) - 1
  else -(Text.digitCount ((n.den - 1) / n.value) : Int)

/-- Whether `c · unit / (scale · den)` rounds to the number. -/
def holds (n : Neighbourhood) (c unit scale : Nat) : Bool :=
  if n.closed then n.low * scale ≤ c * unit && c * unit ≤ n.high * scale
  else n.low * scale < c * unit && c * unit < n.high * scale

/-- The nearest decimal on the grid of 10^x that rounds to the number, if one does; a tie goes to
the even digit. -/
def onGrid? (n : Neighbourhood) (x : Int) : Option Decimal :=
  let scale := if 0 ≤ x then 1 else Nat.pow 10 (-x).toNat
  let unit := if 0 ≤ x then n.den * Nat.pow 10 x.toNat else n.den
  let c := n.value * scale / unit
  let down := n.value * scale - c * unit
  let up := (c + 1) * unit - n.value * scale
  match n.holds c unit scale, n.holds (c + 1) unit scale with
  | true, true => some ⟨if down < up ∨ (down = up ∧ c % 2 = 0) then c else c + 1, x⟩
  | true, false => some ⟨c, x⟩
  | false, true => some ⟨c + 1, x⟩
  | false, false => none

end Neighbourhood

/-- The decimal of a positive m·2^e with `count` significant digits, a half rounded up. -/
def significant (count m : Nat) (e : Int) : Decimal :=
  let n := neighbourhood m e
  let x := n.magnitude - count + 1
  let scale := if 0 ≤ x then 1 else Nat.pow 10 (-x).toNat
  let unit := if 0 ≤ x then n.den * Nat.pow 10 x.toNat else n.den
  ⟨(2 * n.value * scale + unit) / (2 * unit), x⟩

/-- The shortest decimal that reads back as m·2^e, for a positive mantissa; seventeen digits always
do. -/
def shortest (m : Nat) (e : Int) : Decimal :=
  let n := neighbourhood m e
  let k := n.magnitude
  ((List.range 17).findSome? fun (i : Nat) => n.onGrid? (k - i)).getD (significant 17 m e)

end Binary64

namespace Decimal

/-- The digits without the zeros at the end, and the place of the point counted from the front. -/
def layout (d : Decimal) : List Char × Int :=
  let ds := Text.decimal d.digits
  ((ds.reverse.dropWhile (· == '0')).reverse, (ds.length : Int) + d.exponent)

/-- Digits with the point after `point` of them, padded with zeros; a fraction has at least one
digit. -/
def positional (ds : List Char) (point : Int) : List Char :=
  if point ≤ 0 then '0' :: '.' :: List.replicate (-point).toNat '0' ++ ds
  else
    let whole := ds.take point.toNat
    let fraction := ds.drop point.toNat
    whole ++ List.replicate (point.toNat - ds.length) '0' ++ '.' ::
      (if fraction.isEmpty then ['0'] else fraction)

/-- The exponent of a number in scientific notation: a sign and at least two digits. -/
def exponentText (x : Int) : List Char :=
  'e' :: (if x < 0 then '-' else '+') :: Text.padded 2 x.natAbs

end Decimal

namespace Binary64

/-- The text of a number. Numbers from 10^-4 up to 10^16 are written positionally, with at least
one digit after the point; the others with one digit before the point, a point only where more
digits follow, and an exponent. -/
def toText : Binary64 → List Char
  | .nan => "nan".toList
  | .infinite s => if s then "-inf".toList else "inf".toList
  | .finite s m e =>
    let sign := if s then ['-'] else []
    if m = 0 then sign ++ "0.0".toList
    else
      let (ds, point) := (shortest m e).layout
      if -4 < point ∧ point ≤ 16 then sign ++ Decimal.positional ds point
      else
        sign ++ ds.take 1 ++ (if ds.length ≤ 1 then [] else '.' :: ds.drop 1) ++
          Decimal.exponentText (point - 1)

end Binary64

end BoardViews
