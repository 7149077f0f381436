/-
  Integers of 64 bits: those that the store holds as integers.
-/

namespace BoardViews

/-- The first integer that 64 bits are too few for, 2^63. -/
def wordEnd : Int := 9223372036854775808

/-- An integer that fits 64 bits. -/
def fitsWord (n : Int) : Bool := -wordEnd ≤ n && n < wordEnd

/-- What people are told about an integer that 64 bits are too few for. -/
def beyondWordMessage : String := "Python int too large to convert to SQLite INTEGER"

theorem fitsWord_iff (n : Int) : fitsWord n = true ↔ -wordEnd ≤ n ∧ n < wordEnd := by
  simp [fitsWord]

end BoardViews
