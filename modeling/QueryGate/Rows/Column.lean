import QueryGate.Json.Read
import QueryGate.Rows.Calendar
import QueryGate.Rows.Cell
/-!
# Columns

How the bytes the server sends for a cell are read, by the type of the column.
Bytes that are no value of the type stay bytes.
-/

namespace QueryGate

structure Column where
  name : String
  type : String
  deriving Repr, DecidableEq

/-- A cell as it is sent; none is null. -/
abbrev RawCell := Option (List UInt8)

namespace Column

/-- Truth values are numbers of eight bits. A signed number beyond them is kept
as a number. -/
def readBoolean (isSigned : Bool) (t : List Char) : Option Cell :=
  match Number.readInt t with
  | none => none
  | some n =>
    if -128 ≤ n ∧ n ≤ 127 then some (.bool (n != 0))
    else if isSigned then some (.int n)
    else none

/-- A value of a category, read from text. -/
def readText (category : Category) (t : List Char) : Option Cell :=
  match category with
  | .integer => (Number.readInt t).map .int
  | .unsigned => (Number.readNat Number.word64 t).map fun n => .int n
  | .float => (Number.readBinary .double t).map .float
  | .decimal | .text => some (.text t)
  | .boolean => readBoolean true t
  | .date => (Calendar.readDate t).map fun d => .text (Calendar.dateText d)
  | .time => (Calendar.readTime t).map fun t => .text (Calendar.timeText t)
  | .dateTime =>
    (Calendar.readDateTime t).map fun (d, t) =>
      .text (Calendar.dateText d ++ ' ' :: Calendar.timeText t)
  | .json => (Json.read? t).map .json
  | .binary => none

def unsignedBoolean : String := "BOOLEAN UNSIGNED"

def read (type : String) (t : List Char) : Option Cell :=
  if type = unsignedBoolean then readBoolean false t else readText (.ofType type) t

/-- Columns whose value is null if its first byte is zero. -/
def hasZeroNull (type : String) : Bool :=
  match Category.ofType type with
  | .date | .dateTime => true
  | _ => false

def cell (type : String) : RawCell → Cell
  | none => .null
  | some bytes =>
    if hasZeroNull type ∧ bytes.head? = some 0 then .null
    else ((Text.Utf8.decode? bytes).bind (read type)).getD (.bytes bytes)

end Column

end QueryGate
