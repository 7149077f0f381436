/-
  Reading UTF-8 that may be broken, byte by byte, with what is owed of a character in between.
  `lenientText` replaces what is broken: bytes that start no character, and the longest beginnings
  of a character that are not carried on, read as one replacement character each. `loosePoints?`
  lets halves of pairs pass and gives nothing where anything else is broken.
-/

namespace BoardViews.Bytes

/-- The beginning of a character: how many bytes are owed, the bounds of the next one, and the
value so far. -/
structure Pending where
  owed : Nat
  least : UInt8
  greatest : UInt8
  value : Nat
  deriving DecidableEq, Repr

namespace Pending

/-- Nothing is owed between characters. -/
def fresh : Pending := ⟨0, 0x80, 0xBF, 0⟩

/-- What the first byte of a character owes; nothing if no character starts with it. -/
def ofFirst? (b : UInt8) : Option Pending :=
  if b < 0xC2 then none
  else if b < 0xE0 then some ⟨1, 0x80, 0xBF, b.toNat % 32⟩
  else if b < 0xF0 then
    some ⟨2, if b = 0xE0 then 0xA0 else 0x80, if b = 0xED then 0x9F else 0xBF, b.toNat % 16⟩
  else if b < 0xF5 then
    some ⟨3, if b = 0xF0 then 0x90 else 0x80, if b = 0xF4 then 0x8F else 0xBF, b.toNat % 8⟩
  else none

/-- A byte between characters: what is read with it, and what it owes. -/
def start (b : UInt8) : List Char × Pending :=
  if b < 0x80 then ([Char.ofNat b.toNat], fresh)
  else
    match ofFirst? b with
    | some p => ([], p)
    | none => (['\uFFFD'], fresh)

/-- The next byte: what is read with it, and what is owed then. -/
def take (p : Pending) (b : UInt8) : List Char × Pending :=
  if p.owed = 0 then start b
  else if p.least ≤ b ∧ b ≤ p.greatest then
    let value := 64 * p.value + b.toNat % 64
    if p.owed = 1 then ([Char.ofNat value], fresh) else ([], ⟨p.owed - 1, 0x80, 0xBF, value⟩)
  else ('\uFFFD' :: (start b).1, (start b).2)

/-- The characters of bytes that follow the beginning of one. -/
def read (p : Pending) : List UInt8 → List Char
  | [] => if p.owed = 0 then [] else ['\uFFFD']
  | b :: bs => (p.take b).1 ++ read (p.take b).2 bs

/-- The code points of bytes that follow the beginning of a character. Half a pair may be written as
a character of three bytes is; there are none where anything else is no UTF-8. -/
def points? (p : Pending) : List UInt8 → Option (List Nat)
  | [] => if p.owed = 0 then some [] else none
  | b :: bs =>
    if p.owed = 0 then
      if b < 0x80 then (fresh.points? bs).map (b.toNat :: ·)
      else
        match ofFirst? b with
        | some q => points? (if b = 0xED then { q with greatest := 0xBF } else q) bs
        | none => none
    else if p.least ≤ b ∧ b ≤ p.greatest then
      let value := 64 * p.value + b.toNat % 64
      if p.owed = 1 then (fresh.points? bs).map (value :: ·)
      else points? ⟨p.owed - 1, 0x80, 0xBF, value⟩ bs
    else none

end Pending

/-- The code points of bytes in UTF-8 in which halves of pairs may be written as characters. -/
def loosePoints? (bs : List UInt8) : Option (List Nat) := Pending.fresh.points? bs

/-- The text of bytes. -/
def lenientText (bs : List UInt8) : String := String.ofList (Pending.fresh.read bs)

end BoardViews.Bytes
