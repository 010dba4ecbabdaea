import QueryGate.Query.Stream
/-!
# Fields of introspection rows

How names and numbers are taken from the rows that describe a schema. Servers
differ in the types they give these columns.
-/

namespace QueryGate.Schema

/-- A row with the columns it belongs to. -/
structure Record where
  columns : List Column
  cells : List RawCell
  deriving Repr

namespace Record

/-- Types whose values are text, or bytes that are taken for text. -/
def textTypes : List String :=
  ["VARCHAR", "CHAR", "TINYTEXT", "TEXT", "MEDIUMTEXT", "LONGTEXT", "ENUM", "TINYBLOB", "BLOB",
   "MEDIUMBLOB", "LONGBLOB", "BINARY", "VARBINARY"]

def signedTypes : List String := ["BOOLEAN", "TINYINT", "SMALLINT", "MEDIUMINT", "INT", "BIGINT"]

def unsignedTypes : List String := signedTypes.map (· ++ " UNSIGNED")

/-- A cell that is not null, with the type of its column. -/
def at? (r : Record) (i : Nat) : Option (String × List UInt8) := do
  let column ← r.columns[i]?
  let bytes ← (← r.cells[i]?)
  return (column.type, bytes)

/-- Of columns of one name the last counts. -/
def named? (r : Record) (name : String) : Option (String × List UInt8) := do
  let i ← r.columns.reverse.findIdx? (·.name == name)
  r.at? (r.columns.length - 1 - i)

def textOf (field : Option (String × List UInt8)) : Option String := do
  let (type, bytes) ← field
  if textTypes.contains type then some (.ofList (Text.Utf8.decodeLossy bytes)) else none

def nonEmpty (s : Option String) : Option String := s.filter (!·.isEmpty)

def text? (r : Record) (name : String) : Option String := textOf (r.named? name)

def text (r : Record) (name : String) : String := (r.text? name).getD ""

def nonEmpty? (r : Record) (name : String) : Option String := nonEmpty (r.text? name)

def countOf (field : Option (String × List UInt8)) : Option Nat := do
  let (type, bytes) ← field
  if unsignedTypes.contains type then
    (Text.Utf8.decode? bytes).bind (Number.readNat Number.word64)
  else if signedTypes.contains type then
    let n ← (Text.Utf8.decode? bytes).bind Number.readInt
    if 0 ≤ n then some n.toNat else none
  else Number.readNat Number.word64 (Text.trim (← textOf field).toList)

def count? (r : Record) (name : String) : Option Nat := countOf (r.named? name)

end Record

/-- The records of a stream. -/
def recordsOf (s : Stream) : List Record := s.rows.map fun cells => ⟨s.columns, cells⟩

end QueryGate.Schema
