import BoardViews.Complaint

/-
  Numbers as people write them. An integer may have blanks around it, a sign, zeros in front, single
  underscores between its digits and a fraction of zeros; what may be left out is left out, and the
  rest has to be a plain integer. Only digits at the very front of a text can be too many; a text
  that had to be cleaned first is just not an integer then.
-/

namespace BoardViews.Loose

/-- A text without its underscores; nothing if it has none, or has them where they may not be. -/
def withoutUnderscores? (cs : List Char) : Option (List Char) :=
  let parts := cs.splitOn '_'
  if parts.length < 2 ∨ parts.any (·.isEmpty) then none else some parts.flatten

/-- What follows a plus sign; a minus sign may not follow it. -/
def withoutPlus? : List Char → Option (List Char)
  | '+' :: '-' :: _ => none
  | '+' :: cs => some cs
  | cs => some cs

/-- What follows the zeros and underscores after a zero: a number or its sign, a point with a zero
in front of it, or the last of the zeros. -/
def afterZeros (last : Char) : List Char → Option (List Char)
  | [] => some [last]
  | c :: cs =>
    if c = '0' ∨ c = '_' then afterZeros c cs
    else if c = '.' then some (last :: c :: cs)
    else if c = '-' ∨ (Text.digit? c).isSome then some (c :: cs)
    else none

/-- A number without the zeros in front of it. -/
def withoutZeros? : List Char → Option (List Char)
  | '0' :: cs => afterZeros '0' cs
  | c :: cs => if c = '-' ∨ (Text.digit? c).isSome then some (c :: cs) else none
  | [] => none

/-- A number without a fraction of zeros. -/
def withoutPlaces (cs : List Char) : List Char :=
  match cs.dropWhile (· ≠ '.') with
  | '.' :: z :: zs => if (z :: zs).all (· == '0') then cs.takeWhile (· ≠ '.') else cs
  | _ => cs

/-- A number without zeros in front, a fraction of zeros, and underscores. -/
def bare? (cs : List Char) : Option (List Char) :=
  (withoutZeros? cs).map fun cs =>
    let cs := withoutPlaces cs
    (withoutUnderscores? cs).getD cs

/-- A number without all that may be left out; its minus sign stays. -/
def cleaned? (cs : List Char) : Option (List Char) :=
  match withoutPlus? (Text.trim Text.isSpace cs) with
  | some ('-' :: cs) => (bare? cs).map ('-' :: ·)
  | some cs => bare? cs
  | none => none

/-- The most digits of an integer. -/
def maxDigits : Nat := 4300

/-- A plain integer: a minus sign or none, and digits that do not start with a zero. -/
def readPlainInt (cs : List Char) : Except Cause Int :=
  let (negative, body) : Bool × List Char :=
    match cs with
    | '-' :: r => (true, r)
    | _ => (false, cs)
  let (ds, rest) := Text.spanDigits Text.digit? body
  if ds = [] then .error .unreadableInt
  else if ds.head? = some 0 then
    if ds.length = 1 ∧ rest = [] then .ok 0 else .error .unreadableInt
  else if maxDigits < ds.length then .error .hugeInt
  else if rest = [] then .ok (Text.signed negative (Text.digitsValue ds))
  else .error .unreadableInt

/-- An integer. One that is not plain has to be so once it is cleaned, and is then never said to be
too large. -/
def readInt (s : String) : Except Cause Int :=
  match readPlainInt s.toList with
  | .error .unreadableInt =>
    ((cleaned? s.toList).elim (.error .unreadableInt) readPlainInt).mapError fun _ => .unreadableInt
  | r => r

/-- A plain number without its sign: digits, with a point or not, and an exponent. -/
def readMagnitude (negative : Bool) (cs : List Char) : Option Binary64 :=
  let (whole, rest) := Text.spanDigits Text.digit? cs
  let (places, rest) :=
    match rest with
    | '.' :: r => Text.spanDigits Text.digit? r
    | _ => ([], rest)
  if whole.isEmpty && places.isEmpty then none
  else
    let value (power : Int) :=
      Binary64.ofDecimal negative (Text.digitsValue (whole ++ places)) (power - places.length)
    match rest with
    | [] => some (value 0)
    | e :: r =>
      if e = 'e' ∨ e = 'E' then
        let (down, r) := Text.spanSign r
        match Text.spanDigits Text.digit? r with
        | ([], _) => none
        | (ds, rest) =>
          if rest = [] then some (value (Text.signed down (Text.digitsValue ds))) else none
      else none

/-- A plain floating point number: a sign, and digits or one of the names of what is no number. -/
def readPlainFloat (cs : List Char) : Option Binary64 :=
  let (negative, body) := Text.spanSign cs
  let word := Text.lower (String.ofList body)
  if word = "inf" ∨ word = "infinity" then some (.infinite negative)
  else if word = "nan" then some .nan
  else readMagnitude negative body

/-- A floating point number: there may be blanks around it, or underscores in it, but not both. -/
def readFloat (s : String) : Except Cause Binary64 :=
  match readPlainFloat (Text.trim Text.isSpace s.toList) with
  | some x => .ok x
  | none =>
    match (withoutUnderscores? s.toList).bind readPlainFloat with
    | some x => .ok x
    | none => .error .unreadableFloat

end BoardViews.Loose
