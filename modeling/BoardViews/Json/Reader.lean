import BoardViews.Json.Basic

/-
  Reading JSON text. The reader is lenient in three points: it knows NaN and the infinities, a
  field that is named twice keeps its first place and its last value, and a number may have any
  size, but an integer no more than `maxIntegerDigits` digits. Lists and objects may stand in each
  other `maxDepth` deep. What stops the reader comes with the text that was left there, so that a
  position can be told.
-/

namespace BoardViews.Json

/-- What is wrong with a JSON text. -/
inductive Problem where
  | value
  | key
  | colon
  | comma
  | unclosedText
  | control
  | escape
  | unicodeEscape
  | extraData
  | byteOrderMark
  | tooManyDigits (count : Nat)
  | tooDeep (part : String)
  deriving DecidableEq, Repr

/-- What people are told about lists or objects that stand too deep in each other. -/
def depthMessage (part : String) : String :=
  "maximum recursion depth exceeded while decoding a JSON " ++ part ++ " from a unicode string"

/-- A problem and the text that was left where it showed. -/
structure Stop where
  problem : Problem
  left : List Char

/-- The place where a problem shows, counted in characters from the front of the whole text. -/
def Stop.place (s : Stop) (whole : List Char) : Nat := whole.length - s.left.length

/-- A problem and its place. -/
structure ReadError where
  problem : Problem
  position : Nat
  deriving DecidableEq, Repr

/-- The blanks that may stand between the parts of a JSON text. -/
def isGap (c : Char) : Bool := c == ' ' || c == '\t' || c == '\n' || c == '\r'

/-- The text without the blanks in front of it. -/
def skipGap (cs : List Char) : List Char := cs.dropWhile isGap

/-- What follows a word that the text starts with. -/
def after? (word : String) (cs : List Char) : Option (List Char) :=
  let w := word.toList
  if w.isPrefixOf cs then some (cs.drop w.length) else none

/-- The words that stand for a value. -/
def words : List (String × Json) :=
  [("null", .null), ("true", .bool true), ("false", .bool false), ("NaN", .real .nan),
   ("Infinity", .real (.infinite false)), ("-Infinity", .real (.infinite true))]

/-- The fraction of a number: its digits, and what follows. -/
def readFraction : List Char → Option (List Nat × List Char)
  | '.' :: cs =>
    match Text.spanDigits Text.digit? cs with
    | ([], _) => none
    | r => some r
  | _ => none

/-- The exponent of a number, and what follows. -/
def readExponent : List Char → Option (Int × List Char)
  | c :: cs =>
    if c = 'e' ∨ c = 'E' then
      let (negative, cs) := Text.spanSign cs
      match Text.spanDigits Text.digit? cs with
      | ([], _) => none
      | (ds, rest) => some (Text.signed negative (Text.digitsValue ds), rest)
    else none
  | [] => none

/-- The whole part of a number: a zero, or digits that do not start with one. -/
def readWhole : List Char → Option (List Nat × List Char)
  | '0' :: cs => some ([0], cs)
  | cs =>
    match Text.spanDigits Text.digit? cs with
    | ([], _) => none
    | r => some r

/-- A number. It is an integer if it has neither fraction nor exponent. -/
def readNumber (cs : List Char) : Except Stop (Json × List Char) :=
  let (negative, body) : Bool × List Char :=
    match cs with
    | '-' :: r => (true, r)
    | _ => (false, cs)
  match readWhole body with
  | none => .error ⟨.value, cs⟩
  | some (whole, rest) =>
    let fraction := readFraction rest
    let rest' := (fraction.map (·.2)).getD rest
    let exponent := readExponent rest'
    let rest'' := (exponent.map (·.2)).getD rest'
    if fraction.isNone && exponent.isNone then
      if maxIntegerDigits < whole.length then .error ⟨.tooManyDigits whole.length, cs⟩
      else .ok (.int (Text.signed negative (Text.digitsValue whole)), rest'')
    else
      let places := (fraction.map (·.1)).getD []
      let power := (exponent.map (·.1)).getD 0
      .ok (.real (Binary64.ofDecimal negative (Text.digitsValue (whole ++ places))
        (power - places.length)), rest'')

/-- The value of four hexadecimal digits. -/
def unit? (cs : List Char) : Option Nat :=
  match cs.map Text.hexValue? with
  | [some a, some b, some c, some d] => some (((a * 16 + b) * 16 + c) * 16 + d)
  | _ => none

/-- The character that a short escape stands for. -/
def shortEscape? (c : Char) : Option Char :=
  if c = '"' ∨ c = '\\' ∨ c = '/' then some c
  else if c = 'b' then some '\x08'
  else if c = 'f' then some '\x0c'
  else if c = 'n' then some '\n'
  else if c = 'r' then some '\r'
  else if c = 't' then some '\t'
  else none

/-- The code units of a text up to its closing quote, in reverse on top of `acc`, and what follows
the quote; `opening` is the text from the opening quote on. -/
def readUnits (opening : List Char) (acc : List Nat) : List Char →
    Except Stop (List Nat × List Char)
  | [] => .error ⟨.unclosedText, opening⟩
  | c :: cs =>
    if c = '"' then .ok (acc, cs)
    else if c = '\\' then
      match cs with
      | [] => .error ⟨.unclosedText, opening⟩
      | e :: r =>
        if e = 'u' then
          match unit? (r.take 4), (r.drop 4).isEmpty with
          | some n, false => readUnits opening (n :: acc) (r.drop 4)
          | _, _ => .error ⟨.unicodeEscape, e :: r⟩
        else
          match shortEscape? e with
          | some d => readUnits opening (d.toNat :: acc) r
          | none => .error ⟨.escape, c :: e :: r⟩
    else if c.toNat < 0x20 then .error ⟨.control, c :: cs⟩
    else readUnits opening (c.toNat :: acc) cs
termination_by cs => cs.length
decreasing_by all_goals (simp only [List.length_cons, List.length_drop]; omega)

/-- A text, from the character after its opening quote on, and what follows it. -/
def readText (opening cs : List Char) : Except Stop (RawText × List Char) := do
  let (units, rest) ← readUnits opening [] cs
  .ok (.ofPoints (Text.points units.reverse), rest)

mutual

/-- A value, and what follows; `depth` more lists and objects may be opened. -/
def readValue : Nat → Nat → List Char → Except Stop (Json × List Char)
  | 0, _, cs => .error ⟨.value, cs⟩
  | fuel + 1, depth, cs =>
    match cs with
    | '"' :: r => do
      let (t, rest) ← readText cs r
      .ok (.text t, rest)
    | '[' :: r =>
      if depth = 0 then .error ⟨.tooDeep "array", cs⟩
      else
        match skipGap r with
        | ']' :: rest => .ok (.list [], rest)
        | r => do
          let (items, rest) ← readItems fuel (depth - 1) r
          .ok (.list items, rest)
    | '\x7b' :: r =>
      if depth = 0 then .error ⟨.tooDeep "object", cs⟩
      else
        match skipGap r with
        | '\x7d' :: rest => .ok (.object [], rest)
        | r => do
          let (fields, rest) ← readFields fuel (depth - 1) [] r
          .ok (.object fields, rest)
    | _ =>
      match words.findSome? fun w => (after? w.1 cs).map fun rest => (w.2, rest) with
      | some r => .ok r
      | none => readNumber cs

/-- The items of a list up to its closing bracket, and what follows. -/
def readItems : Nat → Nat → List Char → Except Stop (List Json × List Char)
  | 0, _, cs => .error ⟨.value, cs⟩
  | fuel + 1, depth, cs => do
    let (item, rest) ← readValue fuel depth cs
    match skipGap rest with
    | ']' :: rest => .ok ([item], rest)
    | ',' :: rest =>
      let (items, rest) ← readItems fuel depth (skipGap rest)
      .ok (item :: items, rest)
    | rest => .error ⟨.comma, rest⟩

/-- The fields of an object up to its closing brace, on top of `fields`, and what follows. -/
def readFields : Nat → Nat → List (RawText × Json) → List Char →
    Except Stop (List (RawText × Json) × List Char)
  | 0, _, _, cs => .error ⟨.value, cs⟩
  | fuel + 1, depth, fields, cs =>
    match cs with
    | '"' :: r => do
      let (key, rest) ← readText cs r
      match skipGap rest with
      | ':' :: rest =>
        let (value, rest) ← readValue fuel depth (skipGap rest)
        let fields := Keyed.put key value fields
        match skipGap rest with
        | '\x7d' :: rest => .ok (fields, rest)
        | ',' :: rest => readFields fuel depth fields (skipGap rest)
        | rest => .error ⟨.comma, rest⟩
      | rest => .error ⟨.colon, rest⟩
    | _ => .error ⟨.key, cs⟩

end

/-- A whole text as one value. Every call of the reader takes a character or is followed by one
that does, so twice the length is fuel enough. -/
def readAll (cs : List Char) : Except Stop Json :=
  match cs with
  | '\uFEFF' :: _ => .error ⟨.byteOrderMark, cs⟩
  | _ => do
    let (value, rest) ← readValue (2 * cs.length + 2) maxDepth (skipGap cs)
    match skipGap rest with
    | [] => .ok value
    | rest => .error ⟨.extraData, rest⟩

/-- The characters that a code point is read as. Half a pair is read as its escape, but no escape
can be made of one that follows a backslash. -/
def letter (afterBackslash : Bool) (n : Nat) : List Char :=
  if Text.isHalf n then if afterBackslash then ['\uFFFD'] else Text.unitEscape n
  else [Char.ofNat n]

/-- The characters that code points are read as. -/
def letters : Bool → List Nat → List (List Char)
  | _, [] => []
  | afterBackslash, n :: ns =>
    letter afterBackslash n :: letters (n == '\\'.toNat && !afterBackslash) ns

/-- How many letters the first `n` characters are taken from. -/
def lettersWithin : List (List Char) → Nat → Nat
  | [], _ => 0
  | l :: ls, n => if n = 0 then 0 else lettersWithin ls (n - l.length) + 1

/-- Reads a JSON text. -/
def read : RawText → Except ReadError Json
  | .whole s => (readAll s.toList).mapError fun stop => ⟨stop.problem, stop.place s.toList⟩
  | .broken ps =>
    let ls := letters false ps
    (readAll ls.flatten).mapError fun stop =>
      ⟨stop.problem, lettersWithin ls (stop.place ls.flatten)⟩

end BoardViews.Json
