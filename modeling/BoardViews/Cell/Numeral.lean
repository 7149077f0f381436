import BoardViews.Number.Extended
import BoardViews.Number.Shortest
import BoardViews.Number.Word
import BoardViews.Text.Blank

/-
  Numbers as texts of a database: a number is written with fifteen significant digits, and a text
  is read from as many digits as a word holds. Both calculate with extended numbers and round
  after every operation, so a number in the middle between two texts, or a text in the middle
  between two numbers, goes where these roundings take it. A text may have to read as a number from
  end to end, or count as the number at its front.
-/

namespace BoardViews.Numeral

/-! ## Writing -/

/-- Multiplies a scale by a power of ten for as long as the number reaches the product; `power`
counts how often it was multiplied by ten. -/
def climb (x step : Extended) (exponent : Int) : Nat → Extended × Int → Extended × Int
  | 0, s => s
  | fuel + 1, (scale, power) =>
    let next := step.mul scale
    if next.atMost x ∧ power ≤ 350 then climb x step exponent fuel (next, power + exponent)
    else (scale, power)

/-- Multiplies a number by a power of ten for as long as it is below a bound. -/
def lift (bound step : Extended) (exponent : Int) : Nat → Extended × Int → Extended × Int
  | 0, s => s
  | fuel + 1, (x, power) =>
    if bound.atMost x then (x, power)
    else lift bound step exponent fuel (x.mul step, power - exponent)

/-- A positive number as one between one and ten, and its power of ten. -/
def normal (x : Extended) : Extended × Int :=
  let ten := Extended.ofNat 10
  let one := Extended.ofNat 1
  let (scale, power) :=
    climb x ten 1 10 (climb x (.constant 1 10) 10 10 (climb x (.constant 1 100) 100 4 (one, 0)))
  lift one ten 1 8 (lift (.constant 1 (-8)) (.constant 1 8) 8 41 (x.div scale, power))

/-- Half a unit of the fifteenth digit. -/
def halfUnit : Extended := (Extended.constant 5 (-5)).mul (.constant 1 (-10))

/-- The digits of a number below ten, from its integer part on. -/
def digits : Nat → Extended → Nat
  | 0, _ => 0
  | count + 1, x => x.floor * Nat.pow 10 count + digits count (x.fraction.mul (.ofNat 10))

/-- A positive number with fifteen significant digits. -/
def fifteenDigits (x : Extended) : Decimal :=
  let (y, power) := normal x
  let z := y.add halfUnit
  let (z, power) :=
    if (Extended.ofNat 10).atMost z then (z.mul (.constant 1 (-1)), power + 1) else (z, power)
  ⟨digits 15 z, power - 14⟩

/-- A number as text: positional from 10^-4 up to 10^15, else with an exponent; there is at least
one digit after the point. -/
def realText : Binary64 → List Char
  | .nan => "NaN".toList
  | .infinite s => if s then "-Inf".toList else "Inf".toList
  | .finite s m e =>
    if m = 0 then "0.0".toList
    else
      let sign := if s then ['-'] else []
      let (ds, point) := (fifteenDigits ⟨m, e⟩).layout
      if -4 < point ∧ point ≤ 15 then sign ++ Decimal.positional ds point
      else
        sign ++ ds.take 1 ++ '.' :: (if ds.length ≤ 1 then ['0'] else ds.drop 1) ++
          Decimal.exponentText (point - 1)

/-! ## Reading -/

/-- A number that was read. -/
inductive Reading where
  | whole (n : Int)
  | real (x : Binary64)
  deriving DecidableEq, Repr

/-- Once the digits that were read make a number of this size, no more are taken. -/
def fullSignificand : Nat := (Nat.pow 2 63 - 10) / 10

/-- The digits of a number as one of less than 64 bits, with the power of ten that is missing. -/
def significand (whole places : List Nat) : Nat × Int :=
  let take (shift : Int) (skip : Int) (acc : Nat × Int) (d : Nat) : Nat × Int :=
    if acc.1 < fullSignificand then (10 * acc.1 + d, acc.2 + shift) else (acc.1, acc.2 + skip)
  places.foldl (take (-1) 0) (whole.foldl (take 0 1) (0, 0))

/-- Takes as much of a power of ten into a number as a word holds. -/
def raise : Nat → Nat → Nat × Nat
  | 0, n => (n, 0)
  | power + 1, n => if n < (Nat.pow 2 63 - 1) / 10 then raise power (10 * n) else (n, power + 1)

/-- Takes as much of a power of ten out of a number as there are zeros at its end. -/
def lower : Nat → Nat → Nat × Nat
  | 0, n => (n, 0)
  | power + 1, n => if n % 10 = 0 then lower power (n / 10) else (n, power + 1)

/-- Ten to the power 308. -/
def huge : Extended := .constant 1 308

/-- The number n · 10^power, for a positive n. -/
def scaledUp (negative : Bool) (power n : Nat) : Binary64 :=
  let (n, power) := raise power n
  let x := Extended.ofNat n
  if power = 0 then .ofRatio negative n 1
  else if power ≤ 307 then (x.mul (.tenTo power)).toBinary64 negative
  else if power < 342 then
    match (x.mul (.tenTo (power - 308))).toBinary64 negative with
    | .finite s m e => Extended.product64 s ⟨m, e⟩ huge
    | y => y
  else .infinite negative

/-- The number n / 10^power, for a positive n. -/
def scaledDown (negative : Bool) (power n : Nat) : Binary64 :=
  let (n, power) := lower power n
  let x := Extended.ofNat n
  if power = 0 then .ofRatio negative n 1
  else if power ≤ 307 then (x.div (.tenTo power)).toBinary64 negative
  else if power < 342 then
    match (x.div (.tenTo (power - 308))).toBinary64 negative with
    | .finite s m e => Extended.quotient64 s ⟨m, e⟩ huge
    | y => y
  else .zero negative

/-- The number of a sign, digits before and after the point, and a power of ten. -/
def assemble (negative : Bool) (whole places : List Nat) (power : Int) : Binary64 :=
  let (n, missing) := significand whole places
  let p := power + missing
  if n = 0 then .zero negative
  else if 0 ≤ p then scaledUp negative p.toNat n
  else scaledDown negative (-p).toNat n

/-- The blanks that may surround a number in a text. -/
def isNumberBlank (c : Char) : Bool := c == ' ' || (0x9 ≤ c.toNat && c.toNat ≤ 0xD)

/-- The value of the digits of an exponent; beyond ten thousand it does not matter. -/
def exponentValue (ds : List Nat) : Nat :=
  ds.foldl (fun e d => if e < 10000 then 10 * e + d else 10000) 0

/-- The power of ten at the end of a number: nothing, or a mark with a sign and digits. -/
def readPower? : List Char → Option Int
  | [] => some 0
  | c :: cs =>
    let (down, cs) := Text.spanSign cs
    match Text.spanDigits Text.digit? cs with
    | ([], _) => none
    | (ds, rest) =>
      if (c = 'e' ∨ c = 'E') ∧ rest = [] then some (Text.signed down (exponentValue ds)) else none

/-- A number without its sign: digits, with a point or not, and a power of ten. Without those two
it is an integer, if it has no more than 64 bits. -/
def readMagnitude? (negative : Bool) (cs : List Char) : Option Reading :=
  let (whole, rest) := Text.spanDigits Text.digit? cs
  let (places, rest', pointed) :=
    match rest with
    | '.' :: r => let (ds, r) := Text.spanDigits Text.digit? r; (ds, r, true)
    | _ => ([], rest, false)
  if whole = [] ∧ places = [] then none
  else
    let exact := Text.signed negative (Text.digitsValue whole)
    if rest' = [] ∧ pointed = false ∧ fitsWord exact then some (.whole exact)
    else (readPower? rest').map fun power => .real (assemble negative whole places power)

/-- The number that a text reads as, with blanks around it. -/
def read? (s : String) : Option Reading :=
  let (negative, body) := Text.spanSign (Text.trim isNumberBlank s.toList)
  readMagnitude? negative body

/-- The power of ten that a text goes on with, if it does: a mark with a sign and digits. -/
def powerAtFront? : List Char → Option Int
  | [] => none
  | c :: cs =>
    let (down, cs) := Text.spanSign cs
    match Text.spanDigits Text.digit? cs with
    | ([], _) => none
    | (ds, _) => if c = 'e' ∨ c = 'E' then some (Text.signed down (exponentValue ds)) else none

/-- The number that a text counts as: the one at its front, after blanks, or zero. With neither a
point nor a power of ten it is an integer, if it has no more than 64 bits. -/
def atFront (s : String) : Reading :=
  let (negative, body) := Text.spanSign (s.toList.dropWhile isNumberBlank)
  let (whole, rest) := Text.spanDigits Text.digit? body
  let (places, rest', pointed) :=
    match rest with
    | '.' :: r => let (ds, r) := Text.spanDigits Text.digit? r; (ds, r, true)
    | _ => ([], rest, false)
  let exact := Text.signed negative (Text.digitsValue whole)
  if whole = [] ∧ places = [] then .whole 0
  else
    match powerAtFront? rest' with
    | some power => .real (assemble negative whole places power)
    | none =>
      if pointed = false ∧ fitsWord exact then .whole exact
      else .real (assemble negative whole places 0)

end BoardViews.Numeral
