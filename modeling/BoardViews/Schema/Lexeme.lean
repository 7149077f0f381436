import BoardViews.Text.Blank
import BoardViews.Text.Digit

/-
  The words of statements: names, bare or in quotes, reserved words, numbers and marks. Blanks and
  comments separate words and are none themselves. What cannot be a word is kept as a broken one,
  so that a message can quote it.
-/

namespace BoardViews.Schema

/-- What a word is. -/
inductive LexemeKind where
  | name (value : String)
  | reserved
  | mark (c : Char)
  | other
  | gap
  | broken
  deriving DecidableEq, Repr

/-- A word as it is written, and what it is. -/
structure Lexeme where
  kind : LexemeKind
  raw : String
  deriving DecidableEq, Repr

namespace Lexeme

/-- The words that are no names unless they stand in quotes. -/
def reservedWords : List String :=
  ["add", "all", "alter", "and", "as", "autoincrement", "between", "case", "check", "collate",
   "commit", "constraint", "create", "default", "deferrable", "delete", "distinct", "drop", "else",
   "escape", "except", "exists", "foreign", "from", "group", "having", "in", "index", "insert",
   "intersect", "into", "is", "isnull", "join", "limit", "not", "nothing", "notnull", "null", "on",
   "or", "order", "primary", "references", "returning", "select", "set", "table", "then", "to",
   "transaction", "union", "unique", "update", "using", "values", "when", "where"]

/-- A character that may stand within a bare name. -/
def isNameChar (c : Char) : Bool := c.isAlphanum || c == '_' || c == '$' || 0x80 ≤ c.toNat

/-- The blanks that separate words; the vertical tab does so only after another one. -/
def isGap (c : Char) : Bool := c == ' ' || (0x9 ≤ c.toNat && c.toNat ≤ 0xD)

/-- How many characters at the front belong to a class. -/
def countWhile (p : Char → Bool) (cs : List Char) : Nat := (cs.takeWhile p).length

/-- What stands in quotes, and how many characters that takes without the first quote; a quote
that is written twice stands for itself. -/
def quoted? (quote : Char) : List Char → Option (List Char × Nat)
  | [] => none
  | [c] => if c = quote then some ([], 1) else none
  | c :: d :: cs =>
    if c ≠ quote then (quoted? quote (d :: cs)).map fun r => (c :: r.1, r.2 + 1)
    else if d = quote then (quoted? quote cs).map fun r => (c :: r.1, r.2 + 2)
    else some ([], 1)

/-- How many characters a comment takes, from the one after its opening on. -/
def commentLength : List Char → Nat
  | '*' :: '/' :: _ => 2
  | _ :: cs => commentLength cs + 1
  | [] => 0

/-- How many characters a number takes, and whether it is whole. -/
def numberLength (cs : List Char) : Nat :=
  let isDigit := fun c => (Text.digit? c).isSome
  let hexadecimal := countWhile (fun c => (Text.hexValue? c).isSome) (cs.drop 2)
  if (cs.take 2 = ['0', 'x'] ∨ cs.take 2 = ['0', 'X']) ∧ hexadecimal ≠ 0 then 2 + hexadecimal
  else
    let whole := countWhile isDigit cs
    let places :=
      match cs.drop whole with
      | '.' :: r => 1 + countWhile isDigit r
      | _ => 0
    let power :=
      match cs.drop (whole + places) with
      | e :: r =>
        if e = 'e' ∨ e = 'E' then
          let sign := match r with | '+' :: _ | '-' :: _ => 1 | _ => 0
          let ds := countWhile isDigit (r.drop sign)
          if ds = 0 then 0 else 1 + sign + ds
        else 0
      | [] => 0
    whole + places + power

/-- A number; letters that follow it at once break it. -/
def number (cs : List Char) : LexemeKind × Nat :=
  let n := numberLength cs
  let tail := countWhile isNameChar (cs.drop n)
  let hexadecimal := (cs.drop 1).head?.any fun c => c = 'x' ∨ c = 'X'
  if hexadecimal ∧ 2 < n then (.other, n)
  else if tail = 0 then (.other, n)
  else (.broken, n + tail)

/-- A bare name or a reserved word. -/
def bare (cs : List Char) : LexemeKind × Nat :=
  let n := countWhile isNameChar cs
  let word := String.ofList (cs.take n)
  if reservedWords.contains (Text.lower word) then (.reserved, n) else (.name word, n)

/-- A text in quotes as a name; without its closing quote all that follows is broken. -/
def inQuotes (quote : Char) (cs : List Char) : LexemeKind × Nat :=
  match quoted? quote cs with
  | some (value, n) => (.name (String.ofList value), n + 1)
  | none => (.broken, cs.length + 1)

/-- The longest of the given marks that the text starts with. -/
def longestMark (marks : List String) (cs : List Char) : LexemeKind × Nat :=
  match marks.find? fun m => m.toList.isPrefixOf cs with
  | some m => (.other, m.length)
  | none => (.broken, 1)

/-- The marks of more than one meaning, longer ones first. -/
def marks : List String :=
  ["->>", "->", "-", "==", "=", "<=", "<>", "<<", "<", ">=", ">>", ">", "!=", "||", "|", ";", "+",
   "*", "/", "%", "&", "~"]

/-- What the first word of a text is, and how many characters it takes. -/
def first (cs : List Char) : LexemeKind × Nat :=
  match cs with
  | [] => (.broken, 0)
  | '-' :: '-' :: r => (.gap, 2 + countWhile (· ≠ '\n') r)
  | '/' :: '*' :: c :: r => (.gap, 2 + commentLength (c :: r))
  | '\'' :: r => inQuotes '\'' r
  | '"' :: r => inQuotes '"' r
  | '\x60' :: r => inQuotes '\x60' r
  | '[' :: r =>
    let n := countWhile (· ≠ ']') r
    if n = r.length then (.broken, n + 1) else (.name (String.ofList (r.take n)), n + 2)
  | c :: r =>
    if c ≠ '\x0b' ∧ isGap c then (.gap, 1 + countWhile isGap r)
    else if c = '(' ∨ c = ')' ∨ c = ',' then (.mark c, 1)
    else if c = '.' then
      if (r.head?.bind Text.digit?).isSome then number cs else (.mark c, 1)
    else if (Text.digit? c).isSome then number cs
    else if c = '?' then (.other, 1 + countWhile (fun d => (Text.digit? d).isSome) r)
    else if c = '$' ∨ c = '@' ∨ c = '#' ∨ c = ':' then
      let n := countWhile isNameChar r
      if n = 0 then (.broken, 1) else (.other, n + 1)
    else if (c = 'x' ∨ c = 'X') ∧ r.head? = some '\'' then
      let n := countWhile (fun d => (Text.hexValue? d).isSome) (r.drop 1)
      if (r.drop (n + 1)).head? = some '\'' ∧ n % 2 = 0 then (.other, n + 3)
      else
        let m := countWhile (· ≠ '\'') (r.drop 1)
        (.broken, min (m + 3) cs.length)
    else if c = '\uFEFF' then (.gap, 1)
    else if isNameChar c then bare cs
    else longestMark marks cs

/-- The words of a text, up to the first broken one. -/
def ofChars : Nat → List Char → List Lexeme
  | 0, _ => []
  | fuel + 1, cs =>
    if cs = [] then []
    else
      let (kind, n) := first cs
      let rest := ofChars fuel (cs.drop n)
      if kind = .gap then rest
      else
        let word : Lexeme := ⟨kind, String.ofList (cs.take n)⟩
        if kind = .broken then [word] else word :: rest

/-- The words of a text. Every word takes a character. -/
def ofText (s : String) : List Lexeme := ofChars s.length s.toList

end Lexeme

end BoardViews.Schema
