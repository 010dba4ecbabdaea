import QueryGate.Number.Read
import QueryGate.Render.Output
import QueryGate.Vector.Search
/-!
# Tools and their arguments

The calls a client can make, and how they are read from JSON. Arguments come as
an object, whose unknown fields do not matter, or as a list in the order of the
fields.
-/

namespace QueryGate

namespace Tool

structure QueryInput where
  sql : List Char
  database : Option (List Char)
  maxRows : Option Nat
  format : OutputFormat
  deriving Repr

structure ExplainInput where
  sql : List Char
  database : Option (List Char)
  format : OutputFormat
  deriving Repr

structure TablesInput where
  database : List Char
  includeViews : Bool
  deriving Repr

structure TableInput where
  database : List Char
  table : List Char
  deriving Repr

structure SearchInput where
  search : Vector.Search
  format : OutputFormat
  deriving Repr

inductive Call where
  | listConnections
  | useConnection (name : List Char)
  | runQuery (input : QueryInput)
  | explainQuery (input : ExplainInput)
  | listDatabases
  | listTables (input : TablesInput)
  | describeTable (input : TableInput)
  | listIndexes (input : TableInput)
  | showCreateTable (input : TableInput)
  | vectorSearch (input : SearchInput)
  deriving Repr

/-! ## Values -/

/-- Reads one argument; none if it is of the wrong kind. -/
abbrev Read (α : Type) := Json → Option α

def textValue : Read (List Char)
  | .text s => some s.toList
  | _ => none

def flagValue : Read Bool
  | .bool b => some b
  | _ => none

/-- A whole number of 32 bits. -/
def countValue : Read Nat
  | .int n => if 0 ≤ n ∧ n ≤ Number.word32 then some n.toNat else none
  | _ => none

/-- Any number, to the nearest of single precision. -/
def singleValue : Read Number.Binary
  | .int n => some (Number.Binary.ofInt .single n)
  | .real x => some (x.convert .single)
  | _ => none

def vectorValue : Read (List Number.Binary)
  | .list items => items.mapM singleValue
  | _ => none

/-- One of some words, or an object of that one word and null. -/
def choiceValue {α : Type} (choices : List (String × α)) : Read α
  | .text s => choices.lookup s
  | .object [(s, .null)] => choices.lookup s
  | _ => none

def formatValue : Read OutputFormat :=
  choiceValue [("json", .json), ("table", .table), ("markdown", .markdown)]

def distanceValue : Read Vector.Distance :=
  choiceValue [("COSINE", .cosine), ("cosine", .cosine), ("EUCLIDEAN", .euclidean),
    ("euclidean", .euclidean), ("DOT", .dot), ("dot", .dot)]

/-! ## Arguments -/

/-- The arguments there are, by their names. -/
abbrev Arguments := List (String × Json)

def Arguments.ofJson (names : List String) : Json → Option Arguments
  | .object fields => some fields
  | .list items => if items.length ≤ names.length then some (names.zip items) else none
  | _ => none

namespace Arguments

variable {α : Type}

def required (a : Arguments) (name : String) (read : Read α) : Option α :=
  (a.lookup name).bind read

/-- An argument that may be missing, but not null. -/
def withDefault (a : Arguments) (name : String) (read : Read α) (fallback : α) : Option α :=
  match a.lookup name with
  | none => some fallback
  | some v => read v

/-- An argument that may be missing or null. -/
def optional (a : Arguments) (name : String) (read : Read α) : Option (Option α) :=
  match a.lookup name with
  | none | some .null => some none
  | some v => (read v).map some

end Arguments

/-- A field of an input, and whether it has to be there. -/
structure Field where
  name : String
  isRequired : Bool
  deriving Repr, DecidableEq

def queryFields : List Field :=
  [⟨"sql", true⟩, ⟨"database", false⟩, ⟨"max_rows", false⟩, ⟨"format", false⟩]

def explainFields : List Field := [⟨"sql", true⟩, ⟨"database", false⟩, ⟨"format", false⟩]

def tablesFields : List Field := [⟨"database", true⟩, ⟨"include_views", false⟩]

def tableFields : List Field := [⟨"database", true⟩, ⟨"table", true⟩]

def connectionFields : List Field := [⟨"name", true⟩]

def searchFields : List Field :=
  [⟨"database", true⟩, ⟨"table", true⟩, ⟨"column", true⟩, ⟨"query_vector", true⟩,
   ⟨"limit", false⟩, ⟨"select", false⟩, ⟨"where", false⟩, ⟨"distance_func", false⟩,
   ⟨"format", false⟩]

def argumentsOf (fields : List Field) (v : Json) : Option Arguments :=
  Arguments.ofJson (fields.map Field.name) v

/-! ## Inputs -/

def QueryInput.read (v : Json) : Option QueryInput := do
  let a ← argumentsOf queryFields v
  return {
    sql := ← a.required "sql" textValue
    database := ← a.optional "database" textValue
    maxRows := ← a.optional "max_rows" countValue
    format := ← a.withDefault "format" formatValue .json }

def ExplainInput.read (v : Json) : Option ExplainInput := do
  let a ← argumentsOf explainFields v
  return {
    sql := ← a.required "sql" textValue
    database := ← a.optional "database" textValue
    format := ← a.withDefault "format" formatValue .json }

def TablesInput.read (v : Json) : Option TablesInput := do
  let a ← argumentsOf tablesFields v
  return {
    database := ← a.required "database" textValue
    includeViews := ← a.withDefault "include_views" flagValue true }

def TableInput.read (v : Json) : Option TableInput := do
  let a ← argumentsOf tableFields v
  return { database := ← a.required "database" textValue, table := ← a.required "table" textValue }

def connectionName (v : Json) : Option (List Char) := do
  (← argumentsOf connectionFields v).required "name" textValue

def SearchInput.read (v : Json) : Option SearchInput := do
  let a ← argumentsOf searchFields v
  return {
    search := {
      database := ← a.required "database" textValue
      table := ← a.required "table" textValue
      column := ← a.required "column" textValue
      vector := ← a.required "query_vector" vectorValue
      limit := ← a.optional "limit" countValue
      select := ← a.optional "select" textValue
      filter := ← a.optional "where" textValue
      distance := ← a.withDefault "distance_func" distanceValue .cosine }
    format := ← a.withDefault "format" formatValue .json }

/-- Why there is no call. -/
inductive CallFault where
  | unknownTool
  | badArguments
  deriving Repr, DecidableEq

/-- The call of a tool. Tools without arguments take whatever they are given. -/
def Call.read (tool : String) (arguments : Json) : Except CallFault Call :=
  let made (call : Option Call) : Except CallFault Call :=
    match call with
    | some c => .ok c
    | none => .error .badArguments
  match tool with
  | "list_connections" => .ok .listConnections
  | "use_connection" => made ((connectionName arguments).map .useConnection)
  | "run_query" => made ((QueryInput.read arguments).map .runQuery)
  | "explain_query" => made ((ExplainInput.read arguments).map .explainQuery)
  | "list_databases" => .ok .listDatabases
  | "list_tables" => made ((TablesInput.read arguments).map .listTables)
  | "describe_table" => made ((TableInput.read arguments).map .describeTable)
  | "list_indexes" => made ((TableInput.read arguments).map .listIndexes)
  | "show_create_table" => made ((TableInput.read arguments).map .showCreateTable)
  | "vector_search" => made ((SearchInput.read arguments).map .vectorSearch)
  | _ => .error .unknownTool

end Tool

end QueryGate
