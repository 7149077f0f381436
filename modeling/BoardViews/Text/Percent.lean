import BoardViews.Text.Digit

/-
  Percent-encoding: letters, digits and the marks that the path of an address is made of stay, and
  every byte of any other character is written as two hexadecimal digits after a percent sign.
  Reading is lenient: a percent sign that no two digits follow stands for itself.
-/

namespace BoardViews.Text

/-- The marks that stay as they are. -/
def pathMarks : List Char := "_.-~:/%=@[]!$&'()*+,;".toList

/-- Whether a character stays as it is. -/
def staysInPath (c : Char) : Bool := c.isAlphanum || pathMarks.contains c

/-- A byte as a percent sign and two digits. -/
def percentByte (b : UInt8) : List Char := '%' :: (hex 2 b.toNat).map Char.toUpper

/-- A character of a path. -/
def percentChar (c : Char) : List Char :=
  if staysInPath c then [c] else (String.utf8EncodeChar c).flatMap percentByte

/-- A path in percent-encoding. -/
def percentEncode (s : String) : String := String.ofList (s.toList.flatMap percentChar)

/-- The byte of two hexadecimal digits. -/
def hexByte? (a b : Char) : Option UInt8 := do
  let x ← hexValue? a
  let y ← hexValue? b
  some (UInt8.ofNat (16 * x + y))

/-- The bytes of a text in percent-encoding. -/
def percentDecode : List Char → List UInt8
  | '%' :: a :: b :: cs =>
    match hexByte? a b with
    | some byte => byte :: percentDecode cs
    | none => '%'.toUInt8 :: percentDecode (a :: b :: cs)
  | c :: cs => String.utf8EncodeChar c ++ percentDecode cs
  | [] => []

end BoardViews.Text
