import QueryGate.Dsn.Mask
import QueryGate.Settings.Connections
/-!
# The registry

The connections a server has, and the one its tools run against. Every
operation here is one step under the registry's lock.
-/

namespace QueryGate

/-- Stands for a pool of connections. -/
abbrev PoolId := Nat

structure Entry where
  config : ConnectionConfig
  pool : PoolId
  deriving Repr, DecidableEq

/-- What is told about a connection. -/
structure ConnectionSummary where
  name : List Char
  /-- The connection text, masked. -/
  dsn : List Char
  description : List Char
  readOnly : Bool
  active : Bool
  deriving Repr, DecidableEq

structure Registry where
  /-- In the order of registration. -/
  entries : List Entry
  active : Option (List Char)
  closed : Bool
  deriving Repr, DecidableEq

namespace Registry

def empty : Registry := ⟨[], none, false⟩

def closedError : Error := .connection "Connection registry is closed" "Restart the server"

def duplicateError (name : List Char) : Error :=
  .connection ("Connection '" ++ .ofList name ++ "' already exists")
    "Use name=DSN to give each connection a unique name"

def noActiveError : Error :=
  .connection "No active connection" "Start the server with at least one --connection"

def find? (r : Registry) (name : List Char) : Option Entry :=
  r.entries.find? (·.config.name == name)

def contains (r : Registry) (name : List Char) : Bool := (r.find? name).isSome

/-- Registers a connection; the first one becomes the active one. -/
def insert (r : Registry) (e : Entry) : Except Error Registry :=
  if r.closed then .error closedError
  else if r.contains e.config.name then .error (duplicateError e.config.name)
  else
    .ok { r with
      entries := r.entries ++ [e]
      active := some (r.active.getD e.config.name) }

/-- The entry tools run against. -/
def activeEntry (r : Registry) : Except Error Entry :=
  if r.closed then .error closedError
  else
    match r.active with
    | none => .error noActiveError
    | some name =>
      match r.find? name with
      | some e => .ok e
      | none => .error (.unknownConnection (.ofList name))

/-- Makes a connection the active one. -/
def setActive (r : Registry) (name : List Char) : Except Error Registry :=
  if r.contains name then .ok { r with active := some name }
  else .error (.unknownConnection (.ofList name))

def summaryOf (r : Registry) (e : Entry) : ConnectionSummary :=
  { name := e.config.name
    dsn := Dsn.mask e.config.dsn
    description := e.config.description
    readOnly := e.config.readOnly
    active := r.active == some e.config.name }

def summaries (r : Registry) : List ConnectionSummary := r.entries.map r.summaryOf

/-- Takes all entries out for good; none if that was done before. -/
def close (r : Registry) : Option (List Entry × Registry) :=
  if r.closed then none else some (r.entries, ⟨[], none, true⟩)

end Registry

end QueryGate
