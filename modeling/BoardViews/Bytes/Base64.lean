/-
  Base64 in the alphabet for addresses. Writing puts no padding at the end. Reading is lenient: it
  pads to whole quads, takes the plain alphabet as well, skips what belongs to neither, and stops
  at padding that closes a quad; a quad that stays open is refused.
-/

namespace BoardViews.Base64

/-- The symbol of a value below 64. -/
def symbol (n : Nat) : UInt8 :=
  UInt8.ofNat <|
    if n < 26 then 65 + n
    else if n < 52 then 97 + (n - 26)
    else if n < 62 then 48 + (n - 52)
    else if n = 62 then 45
    else 95

/-- The value of a symbol, of either alphabet. -/
def value? (b : UInt8) : Option Nat :=
  let n := b.toNat
  if 65 ≤ n ∧ n ≤ 90 then some (n - 65)
  else if 97 ≤ n ∧ n ≤ 122 then some (n - 97 + 26)
  else if 48 ≤ n ∧ n ≤ 57 then some (n - 48 + 52)
  else if n = 45 ∨ n = 43 then some 62
  else if n = 95 ∨ n = 47 then some 63
  else none

/-- The padding symbol. -/
def pad : UInt8 := 61

/-- Writes bytes as symbols: four for three bytes, three for two, two for one. -/
def encode : List UInt8 → List UInt8
  | a :: b :: c :: rest =>
    let (a, b, c) := (a.toNat, b.toNat, c.toNat)
    symbol (a / 4) :: symbol (a % 4 * 16 + b / 16) :: symbol (b % 16 * 4 + c / 64) ::
      symbol (c % 64) :: encode rest
  | [a, b] =>
    let (a, b) := (a.toNat, b.toNat)
    [symbol (a / 4), symbol (a % 4 * 16 + b / 16), symbol (b % 16 * 4)]
  | [a] => [symbol (a.toNat / 4), symbol (a.toNat % 4 * 16)]
  | [] => []

/-- Where reading stands in a quad: how many symbols it has, the bits not yet given out, and how
many paddings were seen since its last symbol. -/
structure Quad where
  count : Nat
  bits : Nat
  pads : Nat

/-- A quad without symbols. -/
def Quad.fresh : Quad := ⟨0, 0, 0⟩

/-- Reads symbols from a place within a quad on. -/
def decodeFrom : Quad → List UInt8 → Option (List UInt8)
  | q, [] => if q.count = 0 then some [] else none
  | q, b :: bs =>
    if b = pad then
      if q.count < 2 then decodeFrom q bs
      else if 4 ≤ q.count + q.pads + 1 then some []
      else decodeFrom { q with pads := q.pads + 1 } bs
    else
      match value? b with
      | none => decodeFrom q bs
      | some v =>
        match q.count with
        | 0 => decodeFrom ⟨1, v, 0⟩ bs
        | 1 => (decodeFrom ⟨2, v % 16, 0⟩ bs).map (UInt8.ofNat (q.bits * 4 + v / 16) :: ·)
        | 2 => (decodeFrom ⟨3, v % 4, 0⟩ bs).map (UInt8.ofNat (q.bits * 16 + v / 4) :: ·)
        | _ => (decodeFrom Quad.fresh bs).map (UInt8.ofNat (q.bits * 64 + v) :: ·)

/-- Reads symbols, padded to whole quads first. -/
def decode (bs : List UInt8) : Option (List UInt8) :=
  let short := bs.length % 4
  decodeFrom Quad.fresh (if short = 0 then bs else bs ++ List.replicate (4 - short) pad)

end BoardViews.Base64
