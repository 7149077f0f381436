import BoardViews.Bytes.Lenient
import BoardViews.Http.Message
import BoardViews.Text.Percent

/-
  Query strings: names with values, separated by `&`. Names and values are in percent-encoding,
  and a plus sign in them stands for a blank. Bytes that are not in percent-encoding, though they
  should be, are taken as one character each.
-/

namespace BoardViews.Http.Query

/-- A name or a value. -/
def readPart (cs : List Char) : String :=
  Bytes.lenientText (Text.percentDecode (cs.map fun c => if c = '+' then ' ' else c))

/-- A name and its value, which is empty if there is no `=`. -/
def readPair (cs : List Char) : String × String :=
  (readPart (cutAt '=' cs).1, readPart (cutAt '=' cs).2)

/-- The names and values of a query string, in order. -/
def parse (query : String) : List (String × String) :=
  (((Token.latin (Token.bytes query)).toList.splitOn '&').filter (· ≠ [])).map readPair

/-- The value of a name; the last one counts. -/
def value? (query name : String) : Option String :=
  ((parse query).reverse.find? fun p => p.1 == name).map (·.2)

end BoardViews.Http.Query
