import BoardViews.Cell.Numeral
import BoardViews.Json.Basic

/-
  Cells of tables. A cell holds an integer of 64 bits, a floating point number or a text, whatever
  its column is meant for. In an order all numbers come by their values, and after them the texts.
-/

namespace BoardViews

/-- A stored value. -/
inductive Cell where
  | int (n : Int)
  | real (x : Binary64)
  | text (s : String)
  deriving DecidableEq, Repr

namespace Cell

/-- A value as JSON. -/
def toJson : Cell → Json
  | .int n => .int n
  | .real x => .real x
  | .text s => .text s

/-- A value as it is shown. -/
def shown : Cell → String
  | .int n => Text.integer n
  | .real x => String.ofList x.toText
  | .text s => Text.quoted s

/-- An integer has at most 64 bits. -/
def fits : Cell → Bool
  | .int n => fitsWord n
  | _ => true

/-- Whether a value stands for yes: all but zero and the empty text do. -/
def isYes : Cell → Bool
  | .int n => n != 0
  | .real x => x.toInt? != some 0
  | .text s => !s.isEmpty

/-- A number without a fraction as an integer, if it has less than 64 bits. -/
def settled : Cell → Cell
  | .real x =>
    match x.toInt? with
    | some n => if -wordEnd < n ∧ n < wordEnd - 1 then .int n else .real x
    | none => .real x
  | c => c

/-- The cell of a number that was read. -/
def ofReading : Numeral.Reading → Cell
  | .whole n => .int n
  | .real x => .real x

/-! ## Order -/

/-- A number, counted in units of the least exponent of a floating point number. -/
def size : Cell → Int
  | .int n => n * Int.pow 2 1074
  | .real x => x.size
  | .text _ => 0

/-- Whether a cell comes before another one or has the same place. -/
def le : Cell → Cell → Bool
  | .text s, .text t => decide (s ≤ t)
  | .text _, _ => false
  | _, .text _ => true
  | a, b => decide (a.size ≤ b.size)

theorem le_int (m n : Int) : le (.int m) (.int n) = decide (m ≤ n) := by
  have h : 0 < Int.pow 2 1074 := Int.pow_pos (by decide)
  simp only [le, size]
  exact decide_eq_decide.2 ⟨fun k => Int.le_of_mul_le_mul_right k h,
    fun k => Int.mul_le_mul_of_nonneg_right k (Int.le_of_lt h)⟩

theorem le_total (a b : Cell) : (le a b || le b a) = true := by
  cases a <;> cases b <;> simp [le, Int.le_total, String.le_total]

theorem le_trans {a b c : Cell} (h : le a b = true) (k : le b c = true) : le a c = true := by
  cases a <;> cases b <;> cases c <;> simp_all only [le, decide_eq_true_eq, Bool.false_eq_true]
  case text.text.text => exact String.le_trans h k
  all_goals exact Int.le_trans h k

/-! ## Sums -/

/-- The number that a cell counts as in a sum. -/
def number : Cell → Numeral.Reading
  | .int n => .whole n
  | .real x => .real x
  | .text s => Numeral.atFront s

/-- The sum of a cell and an integer. A sum beyond 64 bits is a floating point number. -/
def plus (c : Cell) (n : Int) : Cell :=
  settled <|
    match c.number with
    | .whole m =>
      if fitsWord (m + n) then .int (m + n)
      else .real ((Binary64.ofIntRatio m 1).add (Binary64.ofIntRatio n 1))
    | .real x => .real (x.add (Binary64.ofIntRatio n 1))

theorem plus_int {m n : Int} (h : fitsWord (m + n) = true) : plus (.int m) n = .int (m + n) := by
  simp [plus, number, h, settled]

end Cell

end BoardViews
