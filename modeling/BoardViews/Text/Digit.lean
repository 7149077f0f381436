/-
  Decimal and hexadecimal digits: writing numbers, and reading the digit runs of the formats that
  are in use. `decimal` and `digitsValue` are inverse on digits; a run may carry single
  underscores between its digits.
-/

namespace BoardViews.Text

/-- The value of an ASCII decimal digit. -/
def digit? (c : Char) : Option Nat :=
  if '0' ≤ c ∧ c ≤ '9' then some (c.toNat - '0'.toNat) else none

/-- A natural number in decimal, without leading zeros. -/
def decimal (n : Nat) : List Char := Nat.toDigits 10 n

/-- An integer in decimal; a minus sign stands in front of a negative one. -/
def integer (n : Int) : String :=
  String.ofList (if n < 0 then '-' :: decimal n.natAbs else decimal n.natAbs)

/-- The value of decimal digits, most significant first. -/
def digitsValue (ds : List Nat) : Nat :=
  ds.foldl (fun v d => 10 * v + d) 0

/-- How many decimal digits a number has; zero has one. -/
def digitCount (n : Nat) : Nat := (decimal n).length

/-- A decimal number of at least `width` digits, with zeros in front. -/
def padded (width n : Nat) : List Char :=
  List.replicate (width - digitCount n) '0' ++ decimal n

/-- The digits at the front of a text, under a reading of digits, and what follows them. -/
def spanDigits (digit : Char → Option Nat) : List Char → List Nat × List Char
  | [] => ([], [])
  | c :: cs =>
    match digit c with
    | none => ([], c :: cs)
    | some d => let (ds, rest) := spanDigits digit cs; (d :: ds, rest)

/-- What may follow a digit in a run: further digits, each with at most one underscore in front
of it. -/
def groupedTail (digit : Char → Option Nat) : List Char → List Nat × List Char
  | '_' :: c :: cs =>
    match digit c with
    | some d => let (ds, rest) := groupedTail digit cs; (d :: ds, rest)
    | none => ([], '_' :: c :: cs)
  | c :: cs =>
    match digit c with
    | some d => let (ds, rest) := groupedTail digit cs; (d :: ds, rest)
    | none => ([], c :: cs)
  | [] => ([], [])

/-- A run of digits in which single underscores may stand between two digits, and what follows;
nothing if the text does not start with a digit. -/
def spanGrouped? (digit : Char → Option Nat) : List Char → Option (List Nat × List Char)
  | [] => none
  | c :: cs =>
    (digit c).map fun d => let (ds, rest) := groupedTail digit cs; (d :: ds, rest)

/-- A sign at the front of a text: whether it is a minus, and what follows. -/
def spanSign : List Char → Bool × List Char
  | '-' :: cs => (true, cs)
  | '+' :: cs => (false, cs)
  | cs => (false, cs)

/-- An integer of the given sign and magnitude. -/
def signed (negative : Bool) (n : Nat) : Int := if negative then -(n : Int) else n

/-- The digit of a value below sixteen, in lower case. -/
def hexDigit (n : Nat) : Char :=
  if n < 10 then Char.ofNat ('0'.toNat + n) else Char.ofNat ('a'.toNat + (n - 10))

/-- The value of a hexadecimal digit of either case. -/
def hexValue? (c : Char) : Option Nat :=
  if '0' ≤ c ∧ c ≤ '9' then some (c.toNat - '0'.toNat)
  else if 'a' ≤ c ∧ c ≤ 'f' then some (c.toNat - 'a'.toNat + 10)
  else if 'A' ≤ c ∧ c ≤ 'F' then some (c.toNat - 'A'.toNat + 10)
  else none

/-- The last `width` hexadecimal digits of a number. -/
def hex : Nat → Nat → List Char
  | 0, _ => []
  | width + 1, n => hex width (n / 16) ++ [hexDigit (n % 16)]

theorem digitsValue_append (ds : List Nat) (d : Nat) :
    digitsValue (ds ++ [d]) = 10 * digitsValue ds + d := by
  simp [digitsValue]

theorem length_hex (width n : Nat) : (hex width n).length = width := by
  induction width generalizing n with
  | zero => rfl
  | succ w ih => simp [hex, ih]

end BoardViews.Text
