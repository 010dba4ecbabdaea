import QueryGate.Json.Value
/-!
# Log events

What the server tells about its work: a message, and values with names.
-/

namespace QueryGate.Log

/-- From the most to the least important. -/
inductive Level where
  | error
  | warn
  | info
  | debug
  deriving Repr, DecidableEq

namespace Level

def text : Level → String
  | error => "ERROR"
  | warn => "WARN"
  | info => "INFO"
  | debug => "DEBUG"

def rank : Level → Nat
  | error => 1
  | warn => 2
  | info => 3
  | debug => 4

end Level

/-- The part of the server an event comes from. -/
inductive Area where
  | server
  | dsn
  | registry
  | executor
  | schema
  | queryTool
  | schemaTool
  | vectorTool
  | transport
  | stdio
  | http
  deriving Repr, DecidableEq

def Area.target : Area → String
  | server => "mysql_mcp_server"
  | dsn => "mysql_mcp_server::db::dsn"
  | registry => "mysql_mcp_server::db::registry"
  | executor => "mysql_mcp_server::db::executor"
  | schema => "mysql_mcp_server::db::schema"
  | queryTool => "mysql_mcp_server::tools::query"
  | schemaTool => "mysql_mcp_server::tools::schema"
  | vectorTool => "mysql_mcp_server::tools::vector"
  | transport => "mysql_mcp_server::transport"
  | stdio => "mysql_mcp_server::transport::stdio"
  | http => "mysql_mcp_server::transport::http"

inductive Value where
  /-- A text that is written as it is. -/
  | text (s : String)
  /-- A text that a line shows in quotes. -/
  | quoted (s : String)
  | count (n : Nat)
  | flag (b : Bool)
  deriving Repr, DecidableEq

def Value.toJson : Value → Json
  | text s | quoted s => .text s
  | count n => .int n
  | flag b => .bool b

structure Event where
  level : Level
  area : Area
  message : String
  fields : List (String × Value)
  deriving Repr, DecidableEq

/-- The message and the values as one object. -/
def Event.fieldsJson (e : Event) : Json :=
  .ofFields (("message", .text e.message) :: e.fields.map fun (k, v) => (k, v.toJson))

end QueryGate.Log
