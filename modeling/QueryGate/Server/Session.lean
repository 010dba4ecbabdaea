import QueryGate.Registry.Connect
import QueryGate.Server.Catalogue
import QueryGate.Settings.Server
import QueryGate.Tool.Run
/-!
# Sessions

From the settings to the end of the process: connections are opened, calls are
answered, and connections are closed again. A server that cannot open all of
its connections serves none.
-/

namespace QueryGate.Server

open Program (log each perform)

/-! ## Calls -/

/-- A call as a client makes it. -/
structure Request where
  tool : String
  arguments : Option Json
  deriving Repr

def badArguments : Error.Report :=
  ⟨Error.Report.invalidParams, "failed to deserialize parameters", none⟩

def unknownTool : Error.Report := ⟨Error.Report.invalidParams, "tool not found", none⟩

/-- Arguments that are missing count as none. -/
def answer (x : Executor) (r : Request) : Program (Except Error.Report Tool.Output) :=
  match Tool.Call.read r.tool (r.arguments.getD (.object [])) with
  | .error .unknownTool => .done (.error unknownTool)
  | .error .badArguments => .done (.error badArguments)
  | .ok call => do
    match ← call.run x with
    | .ok output => return .ok output
    | .error e => return .error e.report

/-- The answers to calls, in order. -/
def answerAll (x : Executor) :
    List Request → Program (List (Except Error.Report Tool.Output))
  | [] => .done []
  | r :: rs => do
    let reply ← answer x r
    return reply :: (← answerAll x rs)

/-! ## Opening -/

/-- Opens connections up to the first that fails. -/
def openEach : List ConnectionConfig → Program (Except Error Unit)
  | [] => .done (.ok ())
  | c :: cs => Program.andThen (Registry.add c) fun () => openEach cs

/-- Opens all connections, or closes those that were opened. -/
def openAll (configs : List ConnectionConfig) : Program (Except Error Unit) := do
  match ← openEach configs with
  | .ok () =>
    let summaries ← perform .summaries
    log .info .server [("count", .count summaries.length)] "Connections ready"
    return .ok ()
  | .error e =>
    log .error .server [("error", .text e.message)] "Failed to open connection"
    Registry.closeAll
    return .error e

/-! ## Transports -/

inductive Signal where
  | interrupt
  | terminate
  deriving Repr, DecidableEq

def Signal.text : Signal → String
  | interrupt => "SIGINT"
  | terminate => "SIGTERM"

/-- What reaches the server from outside. -/
structure Visit where
  /-- The calls of a client on the standard streams; none if no client is there. -/
  calls : Option (List Request)
  /-- What ends the session, other than the client. -/
  signal : Option Signal
  /-- Why the network address cannot be had. -/
  bindFault : Option String
  deriving Repr

/-- How a session went. -/
structure Served where
  replies : List (Except Error.Report Tool.Output)
  result : Except Error Unit
  deriving Repr

/-- A process that ends by a signal is done at once; else the shutdown is
logged. -/
def logSignal (s : Signal) : Program Unit :=
  log .info .transport [] ("Received " ++ s.text)

def closingLine : String := "Closing all database connections"

/-- Serves a client on the standard streams. -/
def serveStdio (x : Executor) (v : Visit) : Program Served := do
  log .info .server [("transport", .quoted "stdio")] "Using stdio transport"
  log .info .stdio [] "Starting MCP server with stdio transport"
  match v.calls with
  | none =>
    return ⟨[], .error (.internal
      "Failed to start stdio transport: connection closed: initialized request")⟩
  | some requests =>
    let replies ← answerAll x requests
    match v.signal with
    | none =>
      log .info .stdio [] "Stdio transport completed normally"
      log .info .stdio [] closingLine
      Registry.closeAll
      return ⟨replies, .ok ()⟩
    | some s =>
      logSignal s
      log .info .stdio [] "Shutdown signal received (send again to force exit)"
      log .info .stdio [] closingLine
      Registry.closeAll
      log .info .stdio [] "Exiting process"
      return ⟨replies, .ok ()⟩

def bindAddress (host : List Char) (port : Nat) : List Char := host ++ ':' :: Number.digitsOf port

/-- Serves on the network until a signal comes. -/
def serveHttp (s : Settings) (v : Visit) : Program Served := do
  let address := bindAddress s.httpHost s.httpPort
  log .info .server
    [("host", shown s.httpHost), ("port", .count s.httpPort), ("endpoint", shown s.endpoint)]
    "Using HTTP transport"
  log .info .http [("addr", shown address)] "Starting MCP server with HTTP transport"
  match v.bindFault with
  | some reason =>
    return ⟨[], .error (.connection
      ("Failed to bind to " ++ .ofList address ++ ": " ++ reason)
      "Check that the port is available")⟩
  | none =>
    log .info .http [("endpoint", shown s.endpoint)] "MCP endpoint ready"
    each logSignal v.signal.toList
    log .info .http [] "HTTP server stopped"
    log .info .http [] "Closing database connections"
    Registry.closeAll
    return ⟨[], .ok ()⟩

/-- Whether the process ends in the middle of the shutdown. -/
def endsAbruptly (s : Settings) (v : Visit) : Bool := s.transport == .stdio && v.signal.isSome

/-! ## The process -/

/-- How the process ends. -/
inductive Ending where
  /-- No connection is configured. -/
  | unconfigured
  | misconfigured (fault : ConnectionFault)
  /-- A connection could not be opened. -/
  | unopened (error : Error)
  | served (s : Served)
  deriving Repr

def executorOf (s : Settings) : Executor := ⟨s.effectiveQueryTimeout, s.maxRows⟩

def writableWarning : String :=
  "Connections are reported as writable. Statements are still gated, but the MySQL " ++
  "principal should only hold SELECT and SHOW VIEW privileges"

def serve (s : Settings) (v : Visit) : Program Served :=
  match s.transport with
  | .stdio => serveStdio (executorOf s) v
  | .http => serveHttp s v

/-- The whole session. -/
def session (s : Settings) (v : Visit) : Program Ending := do
  if s.connections.isEmpty then return .unconfigured
  log .info .server [("transport", .text s.transport.text)]
    ("Starting MySQL MCP Server v" ++ version)
  match s.configs with
  | .error fault => return .misconfigured fault
  | .ok configs =>
    if s.shared.allowWritable then log .warn .server [] writableWarning
    match ← openAll configs with
    | .error e => return .unopened e
    | .ok () =>
      let served ← serve s v
      match served.result with
      | .error e => log .error .server [("error", .text e.message)] "Server error"
      | .ok () =>
        if !endsAbruptly s v then log .info .server [] "Server shutdown complete"
      return .served served

end QueryGate.Server
