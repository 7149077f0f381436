import BoardViews.Text.Digit

/-
  Code units of sixteen bits. A character beyond the first 65536 takes two of them, its halves;
  half a pair that stands alone is no character.
-/

namespace BoardViews.Text

/-- A code unit that starts a pair. -/
def isHighHalf (n : Nat) : Bool := 0xD800 ≤ n && n < 0xDC00

/-- A code unit that ends a pair. -/
def isLowHalf (n : Nat) : Bool := 0xDC00 ≤ n && n < 0xE000

/-- Half a pair. -/
def isHalf (n : Nat) : Bool := isHighHalf n || isLowHalf n

/-- The code point of a pair of code units. -/
def joined (high low : Nat) : Nat := 0x10000 + (high - 0xD800) * 0x400 + (low - 0xDC00)

/-- Code units as code points: two halves in a row make one, and half a pair that stands alone
stays. -/
def points : List Nat → List Nat
  | h :: l :: us =>
    if isHighHalf h && isLowHalf l then joined h l :: points us else h :: points (l :: us)
  | us => us

/-- The code units of a character. -/
def units (c : Char) : List Nat :=
  let n := c.toNat
  if n < 0x10000 then [n] else [0xD800 + (n - 0x10000) / 0x400, 0xDC00 + (n - 0x10000) % 0x400]

/-- A code unit as an escape of four hexadecimal digits. -/
def unitEscape (n : Nat) : List Char := '\\' :: 'u' :: hex 4 n

theorem joined_units {n : Nat} (low : 0x10000 ≤ n) (high : n < 0x110000) :
    joined (0xD800 + (n - 0x10000) / 0x400) (0xDC00 + (n - 0x10000) % 0x400) = n := by
  unfold joined
  omega

/-- No character is half a pair. -/
theorem isHalf_toNat (c : Char) : isHalf c.toNat = false := by
  have h := c.valid
  simp only [UInt32.isValidChar, Nat.isValidChar] at h
  simp only [isHalf, isHighHalf, isLowHalf, Char.toNat, Bool.or_eq_false_iff, Bool.and_eq_false_iff,
    decide_eq_false_iff_not]
  omega

end BoardViews.Text
