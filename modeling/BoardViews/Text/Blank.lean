/-
  Blank characters and trimming. Two classes are in use: `isBlank`, the wide one that names and
  ids are trimmed by, and `isSpace`, which leaves out the four separator controls and is the one
  that numbers may be surrounded by.
-/

namespace BoardViews.Text

/-- The characters that Unicode calls white space. -/
def isSpace (c : Char) : Bool :=
  let n := c.toNat
  (0x9 ≤ n && n ≤ 0xD) || n == 0x20 || n == 0x85 || n == 0xA0 || n == 0x1680 ||
    (0x2000 ≤ n && n ≤ 0x200A) || n == 0x2028 || n == 0x2029 || n == 0x202F || n == 0x205F ||
    n == 0x3000

/-- White space and the separator controls U+001C to U+001F. -/
def isBlank (c : Char) : Bool :=
  isSpace c || (0x1C ≤ c.toNat && c.toNat ≤ 0x1F)

/-- Drops the characters of a class from both ends. -/
def trim (p : Char → Bool) (cs : List Char) : List Char :=
  ((cs.dropWhile p).reverse.dropWhile p).reverse

/-- A text without the blanks around it. -/
def strip (s : String) : String :=
  String.ofList (trim isBlank s.toList)

/-- Lower case for the letters A to Z, all else as it is. -/
def lower (s : String) : String :=
  s.map Char.toLower

theorem toList_strip (s : String) : (strip s).toList = trim isBlank s.toList := by
  simp [strip]

/-- Nothing in front of a trimmed text belongs to the class. -/
theorem trim_head (p : Char → Bool) (cs : List Char) (c : Char)
    (h : (trim p cs).head? = some c) : p c = false := by
  have front : ∀ l : List Char, ∀ d, (l.dropWhile p).head? = some d → p d = false := by
    intro l
    induction l with
    | nil => intro d hd; simp at hd
    | cons a l ih =>
      intro d hd
      by_cases ha : p a = true
      · exact ih d (by simpa [ha] using hd)
      · simp [ha] at hd
        simpa [hd] using ha
  have tail : ∀ l : List Char, ∀ d, ((l.reverse.dropWhile p).reverse).head? = some d →
      l.head? = some d := by
    intro l d hd
    obtain ⟨k, hk⟩ := List.dropWhile_suffix p (l := l.reverse)
    have : l = (l.reverse.dropWhile p).reverse ++ k.reverse := by
      rw [← List.reverse_append, hk, List.reverse_reverse]
    rw [this, List.head?_append, hd]; rfl
  exact front cs c (tail _ c h)

end BoardViews.Text
