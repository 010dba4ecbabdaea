import QueryGate.Tool.Input
/-!
# What the server says about itself

Its name, its instructions and its tools, as a client is told when it connects.
-/

namespace QueryGate.Server

def name : String := "mysql-mcp-server"

def version : String := "0.1.0"

def title : String := "MySQL MCP Server"

def protocolVersion : String := "2025-03-26"

def instructions : String :=
  "Read-only tools for inspecting and querying MySQL.\n" ++
  "\n" ++
  "## Workflow\n" ++
  "1. Call \x60list_connections\x60 to see the configured connections and which is active\n" ++
  "2. Optionally switch with \x60use_connection\x60\n" ++
  "3. Explore with \x60list_databases\x60, \x60list_tables\x60, \x60describe_table\x60, " ++
  "\x60list_indexes\x60\n" ++
  "4. Query with \x60run_query\x60; pass \x60database\x60 instead of writing \x60USE\x60\n" ++
  "\n" ++
  "## Safety\n" ++
  "Every statement passes a read-only gate. Only one SELECT, SHOW, DESCRIBE or\n" ++
  "EXPLAIN statement is accepted per call. Comments, INTO OUTFILE, LOAD_FILE,\n" ++
  "SLEEP, lock functions and the mysql/sys/information_schema/performance_schema\n" ++
  "schemas are rejected. A rejection names the reason; rewrite the statement\n" ++
  "rather than retrying it unchanged."

structure ToolInfo where
  name : String
  description : String
  fields : List Tool.Field
  deriving Repr, DecidableEq

/-- The tools in the order of their names. -/
def tools : List ToolInfo :=
  [⟨"describe_table",
    "Describe the columns of a table: type, nullability, key, default, extra, collation and " ++
    "comment.",
    Tool.tableFields⟩,
   ⟨"explain_query",
    "Show the execution plan of a SELECT statement without running it.\n" ++
    "Useful for understanding index usage.\n" ++
    "Output format: json (default), table, or markdown.",
    Tool.explainFields⟩,
   ⟨"list_connections",
    "List the configured MySQL connections.\n" ++
    "Returns names, masked DSNs, descriptions and which connection is active.",
    []⟩,
   ⟨"list_databases", "List all databases visible on the active connection.", []⟩,
   ⟨"list_indexes",
    "List the indexes of a table with their columns in index order.", Tool.tableFields⟩,
   ⟨"list_tables",
    "List tables and views in a database with engine, estimated row count, size and comment.",
    Tool.tablesFields⟩,
   ⟨"run_query",
    "Execute a single read-only statement (SELECT, SHOW, DESCRIBE, EXPLAIN) and return " ++
    "results.\n" ++
    "Writes, DDL, multiple statements, comments, file access, locking functions and system " ++
    "schemas are rejected.\n" ++
    "Optional \x60database\x60 runs USE first for this statement only.\n" ++
    "Output format: json (default), table, or markdown.",
    Tool.queryFields⟩,
   ⟨"show_create_table",
    "Return the CREATE TABLE (or CREATE VIEW) statement of a table.", Tool.tableFields⟩,
   ⟨"use_connection",
    "Switch the active connection.\nAll other tools run against the active connection.",
    Tool.connectionFields⟩,
   ⟨"vector_search",
    "Nearest-neighbour search over a VECTOR column.\n" ++
    "Returns rows ordered by the \x60_distance\x60 column (COSINE, EUCLIDEAN or DOT).\n" ++
    "\x60select\x60 is a column list and \x60where\x60 a filter body; both are validated.",
    Tool.searchFields⟩]

/-- The names of an input's fields, in their order. -/
def propertiesOf (t : ToolInfo) : List String :=
  (t.fields.map (·.name)).mergeSort fun a b => decide (a ≤ b)

def requiredOf (t : ToolInfo) : List String :=
  ((t.fields.filter (·.isRequired)).map (·.name)).mergeSort fun a b => decide (a ≤ b)

def ToolInfo.toJson (t : ToolInfo) : Json :=
  .ofFields [
    ("name", .text t.name),
    ("description", .text t.description),
    ("properties", .list ((propertiesOf t).map .text)),
    ("required", .list ((requiredOf t).map .text))]

def info : Json :=
  .ofFields [
    ("protocol_version", .text protocolVersion),
    ("name", .text name),
    ("title", .text title),
    ("version", .text version),
    ("instructions", .text instructions),
    ("tools", .list (tools.map ToolInfo.toJson))]

end QueryGate.Server
