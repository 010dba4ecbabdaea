import QueryGate.Render.Markdown
import QueryGate.Rows.Result
import QueryGate.Text.Width
/-!
# Query answers

What a caller gets for a query, in the format asked for.
-/

namespace QueryGate

inductive OutputFormat where
  | json
  | table
  | markdown
  deriving Repr, DecidableEq

/-- Rows come as values or as a formatted text, never both. -/
structure QueryOutput where
  connection : String
  columns : List String
  rows : List (List Json)
  formatted : Option String
  truncated : Bool
  rowCount : Nat
  milliseconds : Nat
  warning : Option String
  deriving Repr

namespace QueryOutput

def formattedText (r : QueryResult) : OutputFormat → Option String
  | .json => none
  | .table =>
    some (.ofList (Render.grid Text.width r.columns r.rows r.truncated r.milliseconds))
  | .markdown => some (.ofList (Render.markdown r.columns r.rows r.truncated))

def ofResult (connection : String) (r : QueryResult) (format : OutputFormat)
    (warning : Option String) : QueryOutput :=
  { connection
    columns := if format = .json then r.columns else []
    rows := if format = .json then r.rows else []
    formatted := formattedText r format
    truncated := r.truncated
    rowCount := r.rowCount
    milliseconds := r.milliseconds
    warning }

/-- Empty lists and absent texts are left out. -/
def toJson (o : QueryOutput) : Json :=
  .ofPresent [
    ("connection", some (.text o.connection)),
    ("columns", if o.columns.isEmpty then none else some (.list (o.columns.map .text))),
    ("rows", if o.rows.isEmpty then none else some (.list (o.rows.map .list))),
    ("formatted", o.formatted.map .text),
    ("truncated", some (.bool o.truncated)),
    ("row_count", some (.int o.rowCount)),
    ("execution_time_ms", some (.int o.milliseconds)),
    ("warning", o.warning.map .text)]

end QueryOutput

end QueryGate
