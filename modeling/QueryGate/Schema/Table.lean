import QueryGate.Json.Value
import QueryGate.Number.Read
import QueryGate.Render.Size
import QueryGate.Text.Case
/-!
# Tables

What the server tells about a table or a view.
-/

namespace QueryGate.Schema

inductive TableKind where
  | table
  | view
  deriving Repr, DecidableEq

namespace TableKind

def text : TableKind → String
  | table => "table"
  | view => "view"

/-- A view has no engine, and a comment that says what it is. -/
def ofStatus (engine comment : Option String) : TableKind :=
  match engine, comment with
  | none, some c => if Text.sameAscii c.toList "view".toList then view else table
  | _, _ => table

end TableKind

structure Table where
  name : String
  kind : TableKind
  engine : Option String
  rowCount : Option Nat
  dataSize : Option Nat
  indexSize : Option Nat
  collation : Option String
  comment : Option String
  deriving Repr, DecidableEq

namespace Table

/-- Data and indexes together, as far as 64 bits hold it. -/
def totalSize (t : Table) : Option String :=
  if t.dataSize.isSome ∨ t.indexSize.isSome then
    some (.ofList (Render.size (min Number.word64 (t.dataSize.getD 0 + t.indexSize.getD 0))))
  else none

def toJson (t : Table) : Json :=
  .ofPresent [
    ("name", some (.text t.name)),
    ("type", some (.text t.kind.text)),
    ("engine", t.engine.map .text),
    ("row_count", t.rowCount.map .ofNat),
    ("data_size", t.dataSize.map .ofNat),
    ("index_size", t.indexSize.map .ofNat),
    ("total_size", t.totalSize.map .text),
    ("collation", t.collation.map .text),
    ("comment", t.comment.map .text)]

end Table

end QueryGate.Schema
