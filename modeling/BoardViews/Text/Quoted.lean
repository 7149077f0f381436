import BoardViews.Text.Digit
import BoardViews.Text.Printable

/-
  Quoted texts: single quotes around it, unless it holds a single quote and no double one;
  backslash escapes for the quote, the backslash, line feed, carriage return and tab, and
  hexadecimal escapes of two, four or eight digits for what is not printable.
-/

namespace BoardViews.Text

/-- The quote that stands around a text. -/
def quoteOf (cs : List Char) : Char :=
  if cs.contains '\'' && !cs.contains '"' then '"' else '\''

/-- How one character is written between quotes. -/
def quotedChar (quote c : Char) : List Char :=
  if c = quote ∨ c = '\\' then ['\\', c]
  else if c = '\n' then ['\\', 'n']
  else if c = '\r' then ['\\', 'r']
  else if c = '\t' then ['\\', 't']
  else if isPrintable c then [c]
  else if c.toNat < 0x100 then '\\' :: 'x' :: hex 2 c.toNat
  else if c.toNat < 0x10000 then '\\' :: 'u' :: hex 4 c.toNat
  else '\\' :: 'U' :: hex 8 c.toNat

/-- A text in quotes. -/
def quoted (s : String) : String :=
  let q := quoteOf s.toList
  String.ofList (q :: s.toList.flatMap (quotedChar q) ++ [q])

end BoardViews.Text
