import BoardViews.Text.CodeUnit
import BoardViews.Text.Quoted

/-
  Texts as they arrive. Escapes can put half a pair of code units where a character should be; such
  a text is kept as its code points, and no bytes stand for it. Every other text is a string.
-/

namespace BoardViews

/-- A text: a string, or code points some of which are halves of pairs. -/
inductive RawText where
  | whole (s : String)
  | broken (points : List Nat)
  deriving DecidableEq, Repr, Inhabited

/-- The first halves in a row that stand alone in a text: where they start, and what they are. -/
structure LoneHalves where
  position : Nat
  halves : List Nat
  deriving DecidableEq, Repr

/-- What people are told about halves that no bytes stand for. -/
def LoneHalves.message (h : LoneHalves) : String :=
  let place :=
    match h.halves with
    | [n] =>
      "character '" ++ String.ofList (Text.unitEscape n) ++ "' in position " ++
        Text.integer h.position
    | ns =>
      "characters in position " ++ Text.integer h.position ++ "-" ++
        Text.integer (h.position + ns.length - 1)
  "'utf-8' codec can't encode " ++ place ++ ": surrogates not allowed"

namespace RawText

instance : Coe String RawText := ⟨.whole⟩

/-- The text of code points. -/
def ofPoints (ps : List Nat) : RawText :=
  if ps.any Text.isHalf then .broken ps else .whole (String.ofList (ps.map Char.ofNat))

/-- The code points of a text. -/
def points : RawText → List Nat
  | .whole s => s.toList.map Char.toNat
  | .broken ps => ps

/-- The string of a text, if it is one. -/
def string? : RawText → Option String
  | .whole s => some s
  | .broken _ => none

/-- Whether a text has nothing in it. -/
def isEmpty (t : RawText) : Bool := t.points.isEmpty

/-- Whether a text starts with a word. -/
def startsWith (word : String) (t : RawText) : Bool :=
  (word.toList.map Char.toNat).isPrefixOf t.points

/-- The halves that keep a text from being written as bytes, if there are any. -/
def loneHalves? : RawText → Option LoneHalves
  | .whole _ => none
  | .broken ps =>
    match ps.dropWhile fun n => !Text.isHalf n with
    | [] => none
    | rest => some ⟨ps.length - rest.length, rest.takeWhile Text.isHalf⟩

/-- A text with a replacement character for every half. -/
def patched : RawText → String
  | .whole s => s
  | .broken ps => String.ofList (ps.map fun n => if Text.isHalf n then '\uFFFD' else Char.ofNat n)

/-- A text in quotes. -/
def quoted : RawText → String
  | .whole s => Text.quoted s
  | .broken ps =>
    let q := Text.quoteOf (ps.map Char.ofNat)
    String.ofList <|
      q :: ps.flatMap (fun n =>
        if Text.isHalf n then Text.unitEscape n else Text.quotedChar q (Char.ofNat n)) ++ [q]

@[simp] theorem points_whole (s : String) : points (.whole s) = s.toList.map Char.toNat := rfl

/-- A string is the text of its code points. -/
theorem ofPoints_points_whole (s : String) : ofPoints (points (.whole s)) = .whole s := by
  have h : (s.toList.map Char.toNat).any Text.isHalf = false := by
    simp [Text.isHalf_toNat]
  have e : (s.toList.map Char.toNat).map Char.ofNat = s.toList := by
    simp [Function.comp_def]
  simp only [points_whole, ofPoints, h, e]
  simp

end RawText

end BoardViews
