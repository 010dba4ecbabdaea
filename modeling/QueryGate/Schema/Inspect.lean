import QueryGate.Query.Run
import QueryGate.Schema.Column
import QueryGate.Schema.Field
import QueryGate.Schema.Index
import QueryGate.Schema.Table
import QueryGate.Schema.Template
/-!
# Introspection

What the server's databases, tables, columns and indexes are, read from the
rows of fixed statements.
-/

namespace QueryGate.Schema

open Program (log andThen)

def databasesOf (s : Stream) : List String :=
  (recordsOf s).filterMap fun r => Record.nonEmpty (Record.textOf (r.at? 0))

/-- A table of a status row. Of a view only the name is known. -/
def tableOf (r : Record) : Option Table := do
  let name ← r.nonEmpty? "Name"
  let engine := r.nonEmpty? "Engine"
  let comment := r.nonEmpty? "Comment"
  match TableKind.ofStatus engine comment with
  | .view => return ⟨name, .view, none, none, none, none, none, none⟩
  | .table =>
    return {
      name
      kind := .table
      engine
      rowCount := r.count? "Rows"
      dataSize := r.count? "Data_length"
      indexSize := r.count? "Index_length"
      collation := r.nonEmpty? "Collation"
      comment }

def columnOf (r : Record) : ColumnDefinition :=
  { name := r.text "Field"
    dataType := r.text "Type"
    nullable := Text.sameAscii (r.text "Null").toList "YES".toList
    key := r.text "Key"
    defaultValue := r.text? "Default"
    extra := r.nonEmpty? "Extra"
    collation := r.nonEmpty? "Collation"
    comment := r.nonEmpty? "Comment" }

/-- A part of an index. A row that does not say so is taken not to be unique. -/
def indexPartOf (r : Record) : IndexPart :=
  { index := r.text "Key_name"
    position := ((r.count? "Seq_in_index").filter (· ≤ Number.word32)).getD 0
    column := r.nonEmpty? "Column_name"
    nonUnique := (r.count? "Non_unique").getD 1 != 0
    type := r.nonEmpty? "Index_type" }

def definitionOf (s : Stream) : Option String := do
  Record.nonEmpty (Record.textOf ((← (recordsOf s).head?).at? 1))

/-! ## Programs -/

def qualified (database table : List Char) : String :=
  .ofList (database ++ '.' :: table)

/-- Asks a statement that may be refused for a name in it. -/
def ask (x : Executor) (pool : PoolId) (statement : Except Error (List Char)) :
    Program (Except Error Stream) :=
  match statement with
  | .error e => .done (.error e)
  | .ok sql => x.fetchAll pool sql

def listDatabases (x : Executor) (pool : PoolId) : Program (Except Error (List String)) :=
  andThen (x.fetchAll pool Template.databases) fun s => do
    let databases := databasesOf s
    log .debug .schema [("count", .count databases.length)] "Listed databases"
    return .ok databases

def listTables (x : Executor) (pool : PoolId) (database : List Char) :
    Program (Except Error (List Table)) :=
  andThen (ask x pool (Template.tableStatus database)) fun s => do
    let tables := (recordsOf s).filterMap tableOf
    log .debug .schema
      [("database", shown database), ("count", .count tables.length)] "Listed tables"
    return .ok tables

def describeTable (x : Executor) (pool : PoolId) (database table : List Char) :
    Program (Except Error (List ColumnDefinition)) :=
  andThen (ask x pool (Template.fullColumns database table)) fun s => do
    let columns := (recordsOf s).map columnOf
    if columns.isEmpty then
      return .error (.database ("Table '" ++ qualified database table ++ "' not found") none
        "Call list_tables to see the tables of the database")
    return .ok columns

def listIndexes (x : Executor) (pool : PoolId) (database table : List Char) :
    Program (Except Error (List Index)) :=
  andThen (ask x pool (Template.indexes database table)) fun s => do
    return .ok (Index.group ((recordsOf s).map indexPartOf))

def showCreateTable (x : Executor) (pool : PoolId) (database table : List Char) :
    Program (Except Error String) :=
  andThen (ask x pool (Template.createTable database table)) fun s => do
    match definitionOf s with
    | some definition => return .ok definition
    | none =>
      return .error (.database
        ("No definition returned for '" ++ qualified database table ++ "'") none
        "Check that the table exists and the principal may see it")

end QueryGate.Schema
