import QueryGate.Json.Value
import QueryGate.Number.Text
import QueryGate.Text.Blank
import QueryGate.Text.Cut
import QueryGate.Text.Utf8
/-!
# Cells

The kinds of column types, the values of cells, and what becomes of a value in
an answer.
-/

namespace QueryGate

/-- What values a column has. -/
inductive Category where
  | integer
  | unsigned
  | float
  | decimal
  | boolean
  | date
  | time
  | dateTime
  | json
  | binary
  | text
  deriving Repr, DecidableEq

namespace Category

/-- Types that are known by their whole name. -/
def byName : List (String × Category) :=
  [("BOOLEAN", boolean), ("BOOL", boolean), ("DECIMAL", decimal), ("NUMERIC", decimal),
   ("FLOAT", float), ("DOUBLE", float), ("REAL", float), ("DATE", date), ("TIME", time),
   ("DATETIME", dateTime), ("TIMESTAMP", dateTime), ("JSON", json), ("BIT", binary),
   ("GEOMETRY", binary)]

def endsWith (tail text : List Char) : Bool := (Text.before? tail text).isSome

/-- The category of a type by its name, in letters of any case. -/
def ofType (typeName : String) : Category :=
  let name := (Text.trim typeName.toList).map Char.toUpper
  match byName.lookup (.ofList name) with
  | some c => c
  | none =>
    if Text.hasPart "BLOB".toList name || Text.hasPart "BINARY".toList name then binary
    else if endsWith "INT UNSIGNED".toList name then unsigned
    else if endsWith "INT".toList name then integer
    else text

end Category

/-- The value of a cell. -/
inductive Cell where
  | null
  | bool (b : Bool)
  | int (n : Int)
  | float (x : Number.Binary)
  | text (s : List Char)
  | bytes (bs : List UInt8)
  | json (v : Json)
  deriving Repr

/-- Bytes become text, and so do numbers that JSON does not have; all else
stays. -/
def Cell.normalize : Cell → Json
  | null => .null
  | bool b => .bool b
  | int n => .int n
  | float x => if x.isFinite then .real x else .text (.ofList (Number.doubleText x))
  | text s => .text (.ofList s)
  | bytes bs => .text (.ofList (Text.Utf8.decodeLossy bs))
  | json v => v

end QueryGate
