import QueryGate.Gate.Combined
import QueryGate.Registry.Connect
import QueryGate.Schema.Inspect
import QueryGate.Tool.Input
import QueryGate.Tool.Output
/-!
# What tools do

Each call as a program. Whatever a caller sends to a server passes the gate
first; the server's own statements are fixed.
-/

namespace QueryGate.Tool

open Program (perform log andThen)

/-! ## The gate -/

/-- How much of a rejected text is logged. -/
def loggedLength : Nat := 200

def shortened (s : List Char) : List Char :=
  if loggedLength < s.length then s.take loggedLength ++ "...".toList else s

/-- The verdict on a text; a rejection is logged. -/
def gate (sql : List Char) : Program (Except Error Gate.Kind) :=
  match Gate.check sql with
  | .ok kind => .done (.ok kind)
  | .error e => do
    log .warn .queryTool [("reason", .text e.message), ("sql", shown (shortened sql))]
      "Rejected SQL"
    return .error e

/-- An argument that says nothing if it is blank. -/
def nonBlank (s : Option (List Char)) : Option (List Char) :=
  (s.map Text.trim).filter (!·.isEmpty)

def activeEntry : Program (Except Error Entry) := perform .active

def elapsed : String × Log.Value := ("elapsed_ms", .count 0)

/-! ## Queries -/

def outputOf (e : Entry) (r : QueryResult) (format : OutputFormat) (warning : Option String) :
    Output :=
  .query (.ofResult (.ofList e.config.name) r format warning)

def runQuery (x : Executor) (input : QueryInput) : Program (Except Error Output) :=
  andThen (gate input.sql) fun kind =>
    andThen activeEntry fun e =>
      andThen (x.runQuery e.pool input.sql (nonBlank input.database) input.maxRows) fun r => do
        log .info .queryTool
          [("connection", shown e.config.name), ("kind", .text kind.text),
           ("row_count", .count r.rowCount), ("truncated", .flag r.truncated), elapsed]
          "Query executed"
        return .ok (outputOf e r input.format (RowLimit.warning? input.maxRows))

/-- Statements that can be explained. -/
def isQuery : Gate.Kind → Bool
  | .select | .union | .parenthesized => true
  | _ => false

def explained (sql : List Char) : List Char := "EXPLAIN ".toList ++ Text.trim sql

def explainQuery (x : Executor) (input : ExplainInput) : Program (Except Error Output) :=
  andThen (gate input.sql) fun kind =>
    if !isQuery kind then
      .done (.error (.invalidInput
        ("explain_query expects a SELECT statement, got " ++ kind.text)))
    else
      andThen activeEntry fun e =>
        andThen (x.runQuery e.pool (explained input.sql) (nonBlank input.database) none) fun r => do
          log .info .queryTool
            [("connection", shown e.config.name), ("row_count", .count r.rowCount)]
            "Query explained"
          return .ok (outputOf e r input.format none)

def vectorSearch (x : Executor) (input : SearchInput) : Program (Except Error Output) :=
  match input.search.statement with
  | .error e => .done (.error e)
  | .ok sql =>
    andThen (gate sql) fun _ =>
      andThen activeEntry fun e =>
        let limit := Vector.effectiveLimit input.search.limit
        andThen (x.runQuery e.pool sql none (some limit)) fun r => do
          log .info .vectorTool
            [("connection", shown e.config.name), ("table", shown input.search.table),
             ("distance", .text input.search.distance.text), ("row_count", .count r.rowCount),
             elapsed]
            "Vector search executed"
          return .ok (outputOf e r input.format none)

/-! ## Schema -/

def listDatabases (x : Executor) : Program (Except Error Output) :=
  andThen activeEntry fun e =>
    andThen (Schema.listDatabases x e.pool) fun names => do
      log .info .schemaTool
        [("connection", shown e.config.name), ("count", .count names.length)]
        "Listed databases"
      return .ok (.databases e.config.name names)

/-- The tables, with views or without. -/
def chosenTables (includeViews : Bool) (tables : List Schema.Table) : List Schema.Table :=
  if includeViews then tables else tables.filter (·.kind != .view)

def listTables (x : Executor) (input : TablesInput) : Program (Except Error Output) :=
  andThen activeEntry fun e =>
    andThen (Schema.listTables x e.pool input.database) fun all => do
      let tables := chosenTables input.includeViews all
      log .info .schemaTool
        [("connection", shown e.config.name), ("database", shown input.database),
         ("count", .count tables.length)]
        "Listed tables"
      return .ok (.tables e.config.name input.database tables)

def describeTable (x : Executor) (input : TableInput) : Program (Except Error Output) :=
  andThen activeEntry fun e =>
    andThen (Schema.describeTable x e.pool input.database input.table) fun columns => do
      log .info .schemaTool
        [("connection", shown e.config.name), ("table", shown input.table),
         ("columns", .count columns.length)]
        "Described table"
      return .ok (.columns e.config.name input.database input.table columns)

def listIndexes (x : Executor) (input : TableInput) : Program (Except Error Output) :=
  andThen activeEntry fun e =>
    andThen (Schema.listIndexes x e.pool input.database input.table) fun indexes =>
      .done (.ok (.indexes e.config.name input.database input.table indexes))

def showCreateTable (x : Executor) (input : TableInput) : Program (Except Error Output) :=
  andThen activeEntry fun e =>
    andThen (Schema.showCreateTable x e.pool input.database input.table) fun statement =>
      .done (.ok (.definition e.config.name input.database input.table statement))

/-! ## Connections -/

def listConnections : Program (Except Error Output) := do
  return .ok (.connections (← perform .summaries))

def useConnection (name : List Char) : Program (Except Error Output) :=
  let name := Text.trim name
  andThen (Registry.switch name) fun () => .done (.ok (.switched name))

/-! ## All calls -/

def Call.run (x : Executor) : Call → Program (Except Error Output)
  | .listConnections => Tool.listConnections
  | .useConnection name => Tool.useConnection name
  | .runQuery input => Tool.runQuery x input
  | .explainQuery input => Tool.explainQuery x input
  | .listDatabases => Tool.listDatabases x
  | .listTables input => Tool.listTables x input
  | .describeTable input => Tool.describeTable x input
  | .listIndexes input => Tool.listIndexes x input
  | .showCreateTable input => Tool.showCreateTable x input
  | .vectorSearch input => Tool.vectorSearch x input

end QueryGate.Tool
