import BoardViews.Json.Basic
import BoardViews.Number.Shortest

/-
  Writing JSON text. A value is first taken apart into pieces: texts, and what stands around them.
  `write` makes a string of printable ASCII of the pieces, in one of two styles: `spaced` for
  messages between servers and `dense` for tokens. `print` writes characters as they are, as clients
  get them, so that a text with halves of pairs stays one. Fields are written in their order,
  numbers as `Text.integer` and `Binary64.toText` show them. `writeFault?` tells which values cannot
  be written: the first fault is the one that is met first from the front.
-/

namespace BoardViews.Json

/-- What stands between two items, and between a key and its value. -/
structure Style where
  comma : List Char
  colon : List Char

/-- Blanks after commas and colons. -/
def spaced : Style := ⟨[',', ' '], [':', ' ']⟩

/-- No blanks. -/
def dense : Style := ⟨[','], [':']⟩

/-- A piece of a JSON text: a text that is to be put in quotes, or characters that stand for
themselves. -/
inductive Piece where
  | marks (cs : List Char)
  | quoted (t : RawText)

/-- A floating point number; the three that are none have names. -/
def realMarks : Binary64 → List Char
  | .nan => "NaN".toList
  | .infinite false => "Infinity".toList
  | .infinite true => "-Infinity".toList
  | x => x.toText

mutual

/-- The pieces of a value. -/
def pieces (style : Style) : Json → List Piece
  | .null => [.marks "null".toList]
  | .bool b => [.marks (if b then "true".toList else "false".toList)]
  | .int n => [.marks (Text.integer n).toList]
  | .real x => [.marks (realMarks x)]
  | .text t => [.quoted t]
  | .list [] => [.marks ['[', ']']]
  | .list (v :: vs) => .marks ['['] :: pieces style v ++ itemPieces style vs
  | .object [] => [.marks ['\x7b', '\x7d']]
  | .object ((k, v) :: fs) =>
    .marks ['\x7b'] :: .quoted k :: .marks style.colon :: pieces style v ++ fieldPieces style fs

/-- The pieces of the items after the first, and the closing bracket. -/
def itemPieces (style : Style) : List Json → List Piece
  | [] => [.marks [']']]
  | v :: vs => .marks style.comma :: pieces style v ++ itemPieces style vs

/-- The pieces of the fields after the first, and the closing brace. -/
def fieldPieces (style : Style) : List (RawText × Json) → List Piece
  | [] => [.marks ['\x7d']]
  | (k, v) :: fs =>
    .marks style.comma :: .quoted k :: .marks style.colon :: pieces style v ++
      fieldPieces style fs

end

/-- A character between quotes, if it has to be written as an escape in every style. -/
def escape? (c : Char) : Option (List Char) :=
  if c = '"' then some ['\\', '"']
  else if c = '\\' then some ['\\', '\\']
  else if c = '\n' then some ['\\', 'n']
  else if c = '\r' then some ['\\', 'r']
  else if c = '\t' then some ['\\', 't']
  else if c = '\x0c' then some ['\\', 'f']
  else if c = '\x08' then some ['\\', 'b']
  else if c.toNat < 0x20 then some (Text.unitEscape c.toNat)
  else none

/-- A character between quotes in printable ASCII; one beyond it is one escape, or two for the
halves of a pair. -/
def asciiChar (c : Char) : List Char :=
  (escape? c).getD (if 0x7E < c.toNat then (Text.units c).flatMap Text.unitEscape else [c])

/-- A code point between quotes in printable ASCII. -/
def asciiPoint (n : Nat) : List Char :=
  if Text.isHalf n then Text.unitEscape n else asciiChar (Char.ofNat n)

/-- A piece in printable ASCII. -/
def Piece.ascii : Piece → List Char
  | .marks cs => cs
  | .quoted (.whole s) => '"' :: s.toList.flatMap asciiChar ++ ['"']
  | .quoted (.broken ps) => '"' :: ps.flatMap asciiPoint ++ ['"']

/-- A code point between quotes; halves and characters that need no escape stay. -/
def plainPoint (n : Nat) : List Nat :=
  if Text.isHalf n then [n]
  else
    match escape? (Char.ofNat n) with
    | some cs => cs.map Char.toNat
    | none => [n]

/-- The code points of a piece. -/
def Piece.points : Piece → List Nat
  | .marks cs => cs.map Char.toNat
  | .quoted t => '"'.toNat :: t.points.flatMap plainPoint ++ ['"'.toNat]

/-- The JSON text of a value in printable ASCII. -/
def write (style : Style) (v : Json) : String :=
  String.ofList ((pieces style v).flatMap Piece.ascii)

/-- The JSON text of a value without blanks, in which characters stay as they are. -/
def print (v : Json) : RawText := .ofPoints ((pieces dense v).flatMap Piece.points)

/-- Why a value cannot be written. -/
inductive WriteFault where
  | tooManyDigits
  | tooDeep
  deriving DecidableEq, Repr

/-- What people are told. -/
def WriteFault.message : WriteFault → String
  | .tooManyDigits =>
    "Exceeds the limit (" ++ Text.integer maxIntegerDigits ++
      " digits) for integer string conversion; " ++
      "use sys.set_int_max_str_digits() to increase the limit"
  | .tooDeep => "maximum recursion depth exceeded while encoding a JSON object"

mutual

/-- Why a value cannot be written, if it cannot; `depth` more lists and objects may be opened. -/
def writeFault? (depth : Nat) : Json → Option WriteFault
  | .int n => if maxIntegerDigits < Text.digitCount n.natAbs then some .tooManyDigits else none
  | .list items => if depth = 0 then some .tooDeep else itemsFault? (depth - 1) items
  | .object fields => if depth = 0 then some .tooDeep else fieldsFault? (depth - 1) fields
  | _ => none

/-- Why items cannot be written, if they cannot. -/
def itemsFault? (depth : Nat) : List Json → Option WriteFault
  | [] => none
  | v :: vs => (v.writeFault? depth).or (itemsFault? depth vs)

/-- Why fields cannot be written, if they cannot. -/
def fieldsFault? (depth : Nat) : List (RawText × Json) → Option WriteFault
  | [] => none
  | (_, v) :: fs => (v.writeFault? depth).or (fieldsFault? depth fs)

end

end BoardViews.Json
