import QueryGate.Query.Program
import QueryGate.Rows.Limit
import QueryGate.Rows.Result
import QueryGate.Sql.Identifier
import QueryGate.Text.Visible
/-!
# Running statements

A statement runs on a connection taken from a pool, within a time and up to a
number of rows. A default schema is set on that connection first, and the
connection is then not used again.
-/

namespace QueryGate

open Program (perform log)

/-- What holds for every statement. -/
structure Executor where
  timeoutSeconds : Nat
  /-- Rows a query returns if it does not say how many; zero for the default. -/
  maxRows : Nat
  deriving Repr, DecidableEq

namespace Executor

variable {α : Type}

/-- What waiting came to, as the result of a call. -/
def settle (x : Executor) (operation : String) : Answer α → Except Error α
  | .ok a => .ok a
  | .failed f => .error f.toError
  | .timedOut => .error (.timeout operation x.timeoutSeconds)

/-- Works on a connection of the pool, and gives it back whatever happens. -/
def leased (pool : PoolId) (work : LeaseId → Program (Answer α)) : Program (Answer α) := do
  match ← perform (.lease pool) with
  | .failed f => return .failed f
  | .timedOut => return .timedOut
  | .ok lease =>
    let r ← work lease
    perform (.release lease)
    return r

/-- The statement that sets a default schema. -/
def useStatement (database : Option (List Char)) : Except Error (Option (List Char)) :=
  match database with
  | none => .ok none
  | some d => do return some ("USE ".toList ++ (← Sql.Identifier.quote d))

/-- Sets the default schema of a connection, if one is asked for. -/
def prepare (lease : LeaseId) : Option (List Char) → Program (Answer Unit)
  | none => return .ok ()
  | some statement => do
    perform (.retire lease)
    perform (.execute lease statement)

/-- The columns of a stream and the rows read from it. -/
def readRows (take : Stream → Except Failure (List (List RawCell))) :
    Answer Stream → Answer Stream
  | .failed f => .failed f
  | .timedOut => .timedOut
  | .ok s =>
    match take s with
    | .ok rows => .ok ⟨s.columns, rows, none⟩
    | .error f => .failed f

/-- A result of at most `limit` rows out of one row more. Without rows there are
no columns. -/
def resultOf (limit : Nat) (s : Stream) : QueryResult :=
  { columns := if s.rows.isEmpty then [] else s.columns.map Column.name
    rows := (s.rows.take limit).map s.values
    truncated := limit < s.rows.length
    milliseconds := 0 }

/-- Runs one statement. -/
def runQuery (x : Executor) (pool : PoolId) (sql : List Char) (database : Option (List Char))
    (maxRows : Option Nat) : Program (Except Error QueryResult) := do
  let limit := RowLimit.effective maxRows x.maxRows
  match useStatement database with
  | .error e => return .error e
  | .ok use =>
    log .debug .executor
      [("limit", .count limit),
       ("database", .text (Text.visibleOption (database.map String.ofList))),
       ("timeout_secs", .count x.timeoutSeconds)]
      "Executing query"
    let answer ← leased pool fun lease => do
      match ← prepare lease use with
      | .failed f => return .failed f
      | .timedOut => return .timedOut
      | .ok () => return readRows (·.upTo (limit + 1)) (← perform (.fetch lease sql))
    match x.settle "query execution" answer with
    | .error e => return .error e
    | .ok s =>
      let result := resultOf limit s
      if result.truncated then
        log .debug .executor [("limit", .count limit)] "Query result truncated"
      return .ok result

/-- All rows of an introspection statement. -/
def fetchAll (x : Executor) (pool : PoolId) (sql : List Char) :
    Program (Except Error Stream) := do
  log .debug .executor [("sql", shown sql)] "Executing introspection query"
  let answer ← leased pool fun lease => do
    return readRows Stream.all (← perform (.fetch lease sql))
  return x.settle "introspection query" answer

end Executor

end QueryGate
