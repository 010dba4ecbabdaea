import QueryGate.Query.Program
import QueryGate.Scripted.Server
/-!
# Worlds of scripted servers

The registry, its pools, the connections in them and the servers behind them,
as one state. Every step of a program is answered from it.
-/

namespace QueryGate.Scripted

/-- A connection to a server. -/
structure Link where
  pool : PoolId
  /-- The default schema it has now. -/
  database : Option (List Char)
  /-- Whether it is closed when it is given back. -/
  retired : Bool
  deriving Repr, DecidableEq

structure Pool where
  options : Dsn.Options
  limits : PoolOptions
  /-- The server at the address, if there is one. -/
  server : Option Nat
  /-- The connections that are open and not in use. -/
  idle : List LeaseId
  closed : Bool
  deriving Repr

structure World where
  registry : Registry
  servers : List Server
  /-- Which server answers at which host. -/
  hosts : List (List Char × String)
  pools : List Pool
  links : List Link
  /-- Newest first. -/
  events : List Log.Event
  deriving Repr

namespace World

def start (servers : List Server) (hosts : List (List Char × String)) : World :=
  ⟨.empty, servers, hosts, [], [], []⟩

/-! ## Connections -/

def serverAt (w : World) (host : List Char) : Option Nat := do
  let name ← w.hosts.lookup host
  w.servers.findIdx? (·.name == name)

/-- Opens a connection of a pool. -/
def connect (w : World) (id : PoolId) (pool : Pool) : Answer LeaseId × World :=
  match pool.server.bind (w.servers[·]?) with
  | none => (.failed (.io "Connection refused (os error 111)"), w)
  | some server =>
    match server.script.refusal with
    | some e => (.failed (.answered e), w)
    | none =>
      (.ok w.links.length, { w with links := w.links ++ [⟨id, pool.options.database, false⟩] })

/-- An idle connection of a pool, or a new one. -/
def lease (w : World) (id : PoolId) : Answer LeaseId × World :=
  match w.pools[id]? with
  | none => (.failed .poolClosed, w)
  | some pool =>
    if pool.closed then (.failed .poolClosed, w)
    else
      match pool.idle with
      | [] => w.connect id pool
      | l :: rest => (.ok l, { w with pools := w.pools.set id { pool with idle := rest } })

def retire (w : World) (l : LeaseId) : World :=
  { w with links := w.links.modify l fun k => { k with retired := true } }

/-- A connection that is not retired becomes idle. -/
def release (w : World) (l : LeaseId) : World :=
  match w.links[l]? with
  | none => w
  | some link =>
    if link.retired then w
    else { w with pools := w.pools.modify link.pool fun p => { p with idle := l :: p.idle } }

/-- Sends a statement, and switches the schema if it says so. -/
def send (w : World) (l : LeaseId) (sql : List Char) : Reply × World :=
  let found : Option (Link × Nat × Server) := do
    let link ← w.links[l]?
    let i ← (← w.pools[link.pool]?).server
    return (link, i, ← w.servers[i]?)
  match found with
  | none => (.silence, w)
  | some (link, i, server) =>
    let reply := server.script.reply sql
    let database :=
      match usedSchema? sql with
      | some d => if reply.isSuccess then some d else link.database
      | none => link.database
    let server := { server with received := server.received ++ [⟨link.database, sql⟩] }
    (reply,
      { w with
        servers := w.servers.set i server
        links := w.links.set l { link with database } })

def ping (w : World) (id : PoolId) : Answer Unit × World :=
  match w.lease id with
  | (.ok l, w) => (.ok (), w.release l)
  | (.failed f, w) => (.failed f, w)
  | (.timedOut, w) => (.timedOut, w)

/-! ## Steps -/

def openPool (w : World) (options : Dsn.Options) (limits : PoolOptions) : PoolId × World :=
  let server := if options.socket.isSome then none else w.serverAt options.host
  (w.pools.length, { w with pools := w.pools ++ [⟨options, limits, server, [], false⟩] })

def answer (s : Step) (w : World) : s.Result × World :=
  match s with
  | .log e => ((), { w with events := e :: w.events })
  | .isTaken name => (w.registry.contains name, w)
  | .insert entry =>
    match w.registry.insert entry with
    | .ok registry => (.ok (), { w with registry })
    | .error e => (.error e, w)
  | .active => (w.registry.activeEntry, w)
  | .summaries => (w.registry.summaries, w)
  | .setActive name =>
    match w.registry.setActive name with
    | .ok registry => (.ok w.registry.active, { w with registry })
    | .error e => (.error e, w)
  | .close =>
    match w.registry.close with
    | some (entries, registry) => (some entries, { w with registry })
    | none => (none, w)
  | .openPool options limits => w.openPool options limits
  | .ping pool => w.ping pool
  | .closePool pool =>
    ((), { w with pools := w.pools.modify pool fun p => { p with idle := [], closed := true } })
  | .lease pool => w.lease pool
  | .retire l => ((), w.retire l)
  | .execute l sql =>
    let (reply, w) := w.send l sql
    (reply.outcome, w)
  | .fetch l sql =>
    let (reply, w) := w.send l sql
    (reply.stream, w)
  | .release l => ((), w.release l)

/-- Runs a program in the world. -/
def run {α : Type} (w : World) (p : Program α) : α × World := p.run answer w

/-- The events, oldest first. -/
def log (w : World) : List Log.Event := w.events.reverse

end World

end QueryGate.Scripted
