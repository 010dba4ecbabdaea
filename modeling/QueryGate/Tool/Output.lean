import QueryGate.Registry.State
import QueryGate.Render.Output
import QueryGate.Schema.Column
import QueryGate.Schema.Index
import QueryGate.Schema.Table
/-!
# Answers of tools

What a client gets for a call.
-/

namespace QueryGate

def Json.ofChars (s : List Char) : Json := .text (.ofList s)

def ConnectionSummary.toJson (c : ConnectionSummary) : Json :=
  .ofFields [
    ("name", .ofChars c.name),
    ("dsn", .ofChars c.dsn),
    ("description", .ofChars c.description),
    ("read_only", .bool c.readOnly),
    ("active", .bool c.active)]

namespace Tool

/-- An answer; where it comes from a connection, with that connection's name. -/
inductive Output where
  | connections (summaries : List ConnectionSummary)
  | switched (name : List Char)
  | query (output : QueryOutput)
  | databases (connection : List Char) (names : List String)
  | tables (connection database : List Char) (tables : List Schema.Table)
  | columns (connection database table : List Char) (columns : List Schema.ColumnDefinition)
  | indexes (connection database table : List Char) (indexes : List Schema.Index)
  | definition (connection database table : List Char) (statement : String)
  deriving Repr

namespace Output

/-- The connection an answer comes from. -/
def connection? : Output → Option String
  | connections _ | switched _ => none
  | query o => some o.connection
  | databases c _ | tables c _ _ | columns c _ _ _ | indexes c _ _ _ | definition c _ _ _ =>
    some (.ofList c)

def primaryKey (columns : List Schema.ColumnDefinition) : List String :=
  (columns.filter (·.isPrimaryKey)).map (·.name)

def toJson : Output → Json
  | connections summaries =>
    .ofPresent [
      ("connections", some (.list (summaries.map (·.toJson)))),
      ("active", (summaries.find? (·.active)).map fun c => .ofChars c.name)]
  | switched name =>
    .ofFields [
      ("active", .ofChars name),
      ("message", .text ("Switched to connection '" ++ .ofList name ++ "'"))]
  | query o => o.toJson
  | databases c names =>
    .ofFields [
      ("connection", .ofChars c),
      ("databases", .list (names.map .text)),
      ("count", .ofNat names.length)]
  | tables c database list =>
    .ofFields [
      ("connection", .ofChars c),
      ("database", .ofChars database),
      ("tables", .list (list.map (·.toJson))),
      ("count", .ofNat list.length)]
  | columns c database table list =>
    let key := primaryKey list
    .ofPresent [
      ("connection", some (.ofChars c)),
      ("database", some (.ofChars database)),
      ("table", some (.ofChars table)),
      ("columns", some (.list (list.map (·.toJson)))),
      ("primary_key", if key.isEmpty then none else some (.list (key.map .text)))]
  | indexes c database table list =>
    .ofFields [
      ("connection", .ofChars c),
      ("database", .ofChars database),
      ("table", .ofChars table),
      ("indexes", .list (list.map (·.toJson))),
      ("count", .ofNat list.length)]
  | definition c database table statement =>
    .ofFields [
      ("connection", .ofChars c),
      ("database", .ofChars database),
      ("table", .ofChars table),
      ("create_statement", .text statement)]

end Output

end Tool

end QueryGate
