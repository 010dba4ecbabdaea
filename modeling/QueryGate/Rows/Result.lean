import QueryGate.Json.Value
/-!
# Query results

Columns and rows in order.
-/

namespace QueryGate

structure QueryResult where
  columns : List String
  rows : List (List Json)
  /-- Whether there were more rows than the limit lets through. -/
  truncated : Bool
  milliseconds : Nat
  deriving Repr

namespace QueryResult

def rowCount (r : QueryResult) : Nat := r.rows.length

/-- The value of a column in a row; of columns of one name it is the first. -/
def get? (r : QueryResult) (row : Nat) (column : String) : Option Json := do
  let i ← r.columns.findIdx? (· == column)
  (← r.rows[row]?)[i]?

def getText? (r : QueryResult) (row : Nat) (column : String) : Option String :=
  match r.get? row column with
  | some (.text s) => some s
  | _ => none

end QueryResult

end QueryGate
