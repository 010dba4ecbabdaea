import QueryGate.Dsn.Read
import QueryGate.Settings.Pool
/-!
# Configured connections

A connection is given as a connection text, with a name before it or without.
-/

namespace QueryGate

/-- A connection as it is given. -/
structure ConnectionSpec where
  name : List Char
  dsn : List Char
  deriving Repr, DecidableEq

/-- A connection as the server uses it. -/
structure ConnectionConfig where
  name : List Char
  /-- The connection text with the TLS mode in it. -/
  dsn : List Char
  description : List Char
  readOnly : Bool
  pool : PoolLimits
  deriving Repr, DecidableEq

/-- Why the connections given are refused. -/
inductive ConnectionFault where
  | emptySpec
  | emptyDsn (name : List Char)
  | duplicateName (name : List Char)
  | badDsn (error : Error)
  deriving Repr, DecidableEq

def ConnectionFault.text : ConnectionFault → String
  | emptySpec => "Connection spec cannot be empty"
  | emptyDsn name => "Connection '" ++ .ofList name ++ "' has an empty DSN"
  | duplicateName name =>
    "Duplicate connection name '" ++ .ofList name ++
      "'. Use name=DSN to give each connection a unique name."
  | badDsn error => error.message

namespace ConnectionSpec

def isNameChar (c : Char) : Bool := c.isAlphanum || c == '_' || c == '-'

def isPlainName (name : List Char) : Bool := !name.isEmpty && name.all isNameChar

def defaultName : List Char := "default".toList

/-- What stands before the first equals sign is a name only if it looks like
one; parameters have equals signs too. -/
def split (s : List Char) : ConnectionSpec :=
  match Text.cutFirst '=' s with
  | some (name, dsn) => if isPlainName name then ⟨name, dsn⟩ else ⟨defaultName, s⟩
  | none => ⟨defaultName, s⟩

def read (text : List Char) : Except ConnectionFault ConnectionSpec :=
  let s := Text.trim text
  if s.isEmpty then .error .emptySpec
  else
    let spec := split s
    if Text.allBlank spec.dsn then .error (.emptyDsn spec.name) else .ok spec

end ConnectionSpec

/-- The settings that all connections share. -/
structure SharedSettings where
  ssl : List Char
  description : Option (List Char)
  allowWritable : Bool
  pool : PoolLimits
  deriving Repr, DecidableEq

namespace SharedSettings

/-- A connection with the TLS mode applied; its text has to be readable. -/
def configure (s : SharedSettings) (spec : ConnectionSpec) :
    Except ConnectionFault ConnectionConfig :=
  let dsn := Dsn.applyTls spec.dsn s.ssl
  match Dsn.read dsn with
  | .error e => .error (.badDsn e)
  | .ok d =>
    .ok {
      name := spec.name
      dsn
      description := s.description.getD ("MySQL at ".toList ++ d.summary)
      readOnly := !s.allowWritable
      pool := s.pool }

/-- The connections behind those already configured, up to the first that is
refused. -/
def configureAfter (s : SharedSettings) (names : List (List Char)) :
    List (List Char) → Except ConnectionFault (List ConnectionConfig)
  | [] => .ok []
  | text :: texts => do
    let spec ← ConnectionSpec.read text
    if names.contains spec.name then .error (.duplicateName spec.name)
    else
      let config ← s.configure spec
      return config :: (← s.configureAfter (spec.name :: names) texts)

def connections (s : SharedSettings) (texts : List (List Char)) :
    Except ConnectionFault (List ConnectionConfig) := s.configureAfter [] texts

end SharedSettings

end QueryGate
