import QueryGate.Settings.CommandLine
import QueryGate.Settings.Connections
/-!
# Server settings

All that a server is started with, read from a command line and an environment.
-/

namespace QueryGate

open CommandLine (Opt Domain Given UsageError)

inductive TransportMode where
  | stdio
  | http
  deriving Repr, DecidableEq

def TransportMode.text : TransportMode → String
  | stdio => "stdio"
  | http => "http"

structure Settings where
  /-- The connections as they are given. -/
  connections : List (List Char)
  shared : SharedSettings
  /-- Seconds; zero stands for the default. -/
  queryTimeout : Nat
  maxRows : Nat
  transport : TransportMode
  httpHost : List Char
  httpPort : Nat
  endpoint : List Char
  logLevel : List Char
  jsonLogs : Bool
  deriving Repr, DecidableEq

namespace Settings

def textOption (long envName : String) : Opt := ⟨long, none, envName, .text, false⟩

def numberOption (long envName : String) (limit : Nat) : Opt :=
  ⟨long, none, envName, .number limit, false⟩

def flagOption (long envName : String) : Opt := ⟨long, none, envName, .flag, false⟩

def options : List Opt :=
  [⟨"connection", some 'c', "MYSQL_MCP_CONNECTION", .text, true⟩,
   textOption "ssl" "MYSQL_MCP_SSL",
   textOption "description" "MYSQL_MCP_DESCRIPTION",
   flagOption "allow-writable-principal" "MYSQL_MCP_ALLOW_WRITABLE_PRINCIPAL",
   numberOption "max-open-conns" "MYSQL_MCP_MAX_OPEN_CONNS" Number.word32,
   numberOption "max-idle-conns" "MYSQL_MCP_MAX_IDLE_CONNS" Number.word32,
   numberOption "conn-max-lifetime" "MYSQL_MCP_CONN_MAX_LIFETIME" Number.word64,
   numberOption "conn-max-idle-time" "MYSQL_MCP_CONN_MAX_IDLE_TIME" Number.word64,
   numberOption "ping-timeout" "MYSQL_MCP_PING_TIMEOUT" Number.word64,
   numberOption "query-timeout" "MYSQL_MCP_QUERY_TIMEOUT" Number.word64,
   numberOption "max-rows" "MYSQL_MCP_MAX_ROWS" Number.word32,
   ⟨"transport", some 't', "MYSQL_MCP_TRANSPORT", .choice ["stdio", "http"], false⟩,
   textOption "http-host" "MYSQL_MCP_HTTP_HOST",
   numberOption "http-port" "MYSQL_MCP_HTTP_PORT" Number.word16,
   textOption "mcp-endpoint" "MYSQL_MCP_HTTP_ENDPOINT",
   textOption "log-level" "MYSQL_MCP_LOG_LEVEL",
   flagOption "json-logs" "MYSQL_MCP_JSON_LOGS"]

/-! ## Values with their defaults -/

def textsOf (g : Given) (name : String) : List (List Char) :=
  g.filterMap fun (k, v) =>
    match v with
    | .text s => if k = name then some s else none
    | _ => none

def textOf? (g : Given) (name : String) : Option (List Char) := (textsOf g name).head?

def numberOf (g : Given) (name : String) (fallback : Nat) : Nat :=
  match g.lookup name with
  | some (.number n) => n
  | _ => fallback

def flagOf (g : Given) (name : String) : Bool := g.lookup name == some (.flag true)

def ofGiven (g : Given) : Settings :=
  { connections := textsOf g "connection"
    shared :=
      { ssl := (textOf? g "ssl").getD []
        description := textOf? g "description"
        allowWritable := flagOf g "allow-writable-principal"
        pool :=
          { maxOpen := numberOf g "max-open-conns" 0
            maxIdle := numberOf g "max-idle-conns" 0
            lifetime := numberOf g "conn-max-lifetime" 0
            idleTime := numberOf g "conn-max-idle-time" 0
            pingTimeout := numberOf g "ping-timeout" 0 } }
    queryTimeout := numberOf g "query-timeout" 0
    maxRows := numberOf g "max-rows" 0
    transport := if textOf? g "transport" = some "http".toList then .http else .stdio
    httpHost := (textOf? g "http-host").getD "127.0.0.1".toList
    httpPort := numberOf g "http-port" 8080
    endpoint := (textOf? g "mcp-endpoint").getD "/mcp".toList
    logLevel := (textOf? g "log-level").getD "info".toList
    jsonLogs := flagOf g "json-logs" }

def read (env : List (String × String)) (args : List (List Char)) :
    Except UsageError Settings := do
  return ofGiven (← CommandLine.read options env args)

/-- The time a query gets, in seconds. -/
def effectiveQueryTimeout (s : Settings) : Nat := nonzeroOr s.queryTimeout 30

def configs (s : Settings) : Except ConnectionFault (List ConnectionConfig) :=
  s.shared.connections s.connections

end Settings

end QueryGate
