import BoardViews.Bytes.Lenient
import BoardViews.Text.Raw

/-
  Encodings of JSON texts. A byte order mark in front tells the encoding and is left out. Without
  one, the first two characters of a JSON text are ASCII, so the zero bytes among the first four
  tell how wide the characters are and which byte comes first; where there are none the text is in
  UTF-8. Halves of pairs pass in every encoding; bytes that are anything else than characters have
  no text.
-/

namespace BoardViews.Bytes

/-- How characters are written as bytes; the wider ones have the most significant byte first or
last. -/
inductive Encoding where
  | utf8
  | utf16 (bigFirst : Bool)
  | utf32 (bigFirst : Bool)
  deriving DecidableEq, Repr

namespace Encoding

/-- The byte order marks and what they tell. The mark of one encoding starts with another's, so the
longer of the two comes first. -/
def marks : List (List UInt8 × Encoding) :=
  [([0, 0, 0xFE, 0xFF], .utf32 true), ([0xFF, 0xFE, 0, 0], .utf32 false),
   ([0xFE, 0xFF], .utf16 true), ([0xFF, 0xFE], .utf16 false), ([0xEF, 0xBB, 0xBF], .utf8)]

/-- The encoding of a JSON text without a byte order mark. -/
def ofJson : List UInt8 → Encoding
  | [a, b] => if a = 0 then .utf16 true else if b = 0 then .utf16 false else .utf8
  | a :: b :: c :: d :: _ =>
    if a = 0 then if b = 0 then .utf32 true else .utf16 true
    else if b = 0 then if c = 0 ∧ d = 0 then .utf32 false else .utf16 false
    else .utf8
  | _ => .utf8

/-- Two bytes as one number. -/
def pair (bigFirst : Bool) (a b : UInt8) : Nat :=
  if bigFirst then a.toNat * 256 + b.toNat else b.toNat * 256 + a.toNat

/-- The code units of bytes, if they come in pairs. -/
def units? (bigFirst : Bool) : List UInt8 → Option (List Nat)
  | a :: b :: bs => (units? bigFirst bs).map (pair bigFirst a b :: ·)
  | [_] => none
  | [] => some []

/-- The code points of bytes, if they come in fours and none is too large. -/
def points? (bigFirst : Bool) : List UInt8 → Option (List Nat)
  | a :: b :: c :: d :: bs =>
    let x := pair bigFirst a b
    let y := pair bigFirst c d
    let point := if bigFirst then x * 65536 + y else y * 65536 + x
    if point < 0x110000 then (points? bigFirst bs).map (point :: ·) else none
  | [] => some []
  | _ => none

/-- The text of bytes in an encoding, if they have one. -/
def decode? : Encoding → List UInt8 → Option RawText
  | .utf8, bs =>
    match String.fromUTF8? ⟨bs.toArray⟩ with
    | some s => some (.whole s)
    | none => (loosePoints? bs).map RawText.ofPoints
  | .utf16 bigFirst, bs => (units? bigFirst bs).map fun us => .ofPoints (Text.points us)
  | .utf32 bigFirst, bs => (points? bigFirst bs).map RawText.ofPoints

end Encoding

/-- The text of bytes that hold JSON, if they have one. -/
def jsonText? (bs : List UInt8) : Option RawText :=
  match Encoding.marks.find? fun m => m.1.isPrefixOf bs with
  | some (mark, encoding) => encoding.decode? (bs.drop mark.length)
  | none => (Encoding.ofJson bs).decode? bs

/-- Bytes that start with two characters of ASCII are in UTF-8. -/
theorem jsonText?_of_ascii {a b : UInt8} (bs : List UInt8) (ha : a ≠ 0 ∧ a < 0x80) (hb : b ≠ 0) :
    jsonText? (a :: b :: bs) = Encoding.utf8.decode? (a :: b :: bs) := by
  obtain ⟨ha, narrow⟩ := ha
  have unmarked : Encoding.marks.find? (fun m => m.1.isPrefixOf (a :: b :: bs)) = none := by
    have apart : ∀ c : UInt8, 0x80 ≤ c → (c == a) = false := by
      intro c hc
      have : c ≠ a := by rintro rfl; exact absurd narrow (UInt8.not_lt.2 hc)
      simpa using this
    have nonzero : ((0 : UInt8) == a) = false := by simpa using Ne.symm ha
    simp only [Encoding.marks, List.find?_cons, List.isPrefixOf, nonzero, apart 0xFF (by decide),
      apart 0xFE (by decide), apart 0xEF (by decide), Bool.false_and, List.find?_nil]
  have plain : Encoding.ofJson (a :: b :: bs) = .utf8 := by
    match bs with
    | [] => simp [Encoding.ofJson, ha, hb]
    | [_] => rfl
    | _ :: _ :: _ => simp [Encoding.ofJson, ha, hb]
  rw [jsonText?, unmarked, plain]

/-- Bytes as they stand in messages: in quotes after a letter, those beyond ASCII as escapes. -/
def shown (bs : List UInt8) : String :=
  let q := Text.quoteOf (bs.map fun b => Char.ofNat b.toNat)
  String.ofList <|
    'b' :: q :: bs.flatMap (fun b =>
      if b < 0x80 then Text.quotedChar q (Char.ofNat b.toNat)
      else '\\' :: 'x' :: Text.hex 2 b.toNat) ++ [q]

end BoardViews.Bytes
