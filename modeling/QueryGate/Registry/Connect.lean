import QueryGate.Dsn.Read
import QueryGate.Query.Program
import QueryGate.Text.Visible
/-!
# Opening and closing connections

Adding a connection to the registry, switching to another, and closing them
all.
-/

namespace QueryGate.Registry

open Program (perform andThen log each)

/-- What to do about a connection that cannot be opened, by the text of its
failure. -/
def suggestionFor (text : String) : String :=
  let small := Text.lower text.toList
  let has (part : String) : Bool := Text.hasPart part.toList small
  if has "connection refused" || has "timed out" then
    "Check that the MySQL server is running and reachable"
  else if has "access denied" || has "password" then
    "Verify the username and password in the DSN"
  else if has "unknown database" then "Check that the database name in the DSN exists"
  else if has "tls" || has "ssl" then "Check the --ssl mode or the tls= DSN parameter"
  else "Verify the DSN format: user:password@tcp(host:port)/database"

def pingError (seconds : Nat) : Answer Unit → Option Error
  | .ok () => none
  | .failed f => some (.connection ("Ping failed: " ++ f.text) (suggestionFor f.text))
  | .timedOut =>
    some (.connection ("Ping timed out after " ++ toString seconds ++ "s")
      "Check that the MySQL server is running and reachable")

/-- Makes the pool of a connection. -/
def makePool (config : ConnectionConfig) : Program (Except Error PoolId) :=
  match Dsn.read config.dsn with
  | .error e => .done (.error e)
  | .ok dsn => do
    each
      (fun param =>
        log .debug .dsn [("param", shown param)] "Ignoring unsupported DSN parameter")
      dsn.ignoredParams
    return .ok (← perform (.openPool dsn.options config.pool.options))

/-- Registers a pool; a pool that is refused is closed. -/
def addPool (config : ConnectionConfig) (pool : PoolId) : Program (Except Error Unit) := do
  match ← perform (.insert ⟨config, pool⟩) with
  | .error e =>
    perform (.closePool pool)
    return .error e
  | .ok () =>
    log .info .registry [("connection", shown config.name)] "Connection registered"
    return .ok ()

/-- Registers a connection once its server has answered. -/
def add (config : ConnectionConfig) : Program (Except Error Unit) := do
  if ← perform (.isTaken config.name) then return .error (duplicateError config.name)
  log .info .registry
    [("connection", shown config.name), ("dsn", shown (Dsn.mask config.dsn))]
    "Connecting to MySQL"
  andThen (makePool config) fun pool => do
    match pingError config.pool.options.acquireTimeout (← perform (.ping pool)) with
    | some e =>
      perform (.closePool pool)
      return .error e
    | none => addPool config pool

/-- Switches to another connection. -/
def switch (name : List Char) : Program (Except Error Unit) := do
  match ← perform (.setActive name) with
  | .error e => return .error e
  | .ok previous =>
    log .info .registry
      [("connection", shown name),
       ("previous", .text (Text.visibleOption (previous.map String.ofList)))]
      "Active connection changed"
    return .ok ()

/-- Closes every pool. A second time it does nothing. -/
def closeAll : Program Unit := do
  match ← perform .close with
  | none => return ()
  | some entries =>
    each
      (fun e => do
        perform (.closePool e.pool)
        log .debug .registry [("connection", shown e.config.name)] "Pool closed")
      entries
    log .info .registry [] "All connections closed"

end QueryGate.Registry
