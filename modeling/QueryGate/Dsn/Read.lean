import QueryGate.Dsn.Mask
import QueryGate.Dsn.Tls
import QueryGate.Error
import QueryGate.Number.Read
import QueryGate.Number.Text
/-!
# Connection texts

`[user[:password]@][network[(address)]]/database[?key=value&…]`
-/

namespace QueryGate

namespace Dsn

inductive Address where
  | tcp (host : List Char) (port : Nat)
  | unix (socket : List Char)
  deriving Repr, DecidableEq

end Dsn

/-- What a connection text says. -/
structure Dsn where
  user : Option (List Char)
  password : Option (List Char)
  address : Dsn.Address
  database : Option (List Char)
  params : List (List Char × List Char)
  deriving Repr, DecidableEq

namespace Dsn

/-- Why a connection text cannot be read. -/
inductive Fault where
  | noDatabaseSlash
  | openAddress
  | noSocket
  | unsupportedNetwork (name : List Char)
  | openHost
  | badPort (text : List Char)
  deriving Repr, DecidableEq

def Fault.text : Fault → List Char
  | noDatabaseSlash => "missing '/' before the database name".toList
  | openAddress => "address must be wrapped in parentheses".toList
  | noSocket => "unix address requires a socket path".toList
  | unsupportedNetwork name => "unsupported network '".toList ++ name ++ ['\'']
  | openHost => "unterminated IPv6 address".toList
  | badPort text => "invalid port '".toList ++ text ++ ['\'']

/-! ## Addresses -/

def defaultHost : List Char := "127.0.0.1".toList

def defaultPort : Nat := 3306

def readPort (text : List Char) : Except Fault Nat :=
  match Number.readNat Number.word16 text with
  | some port => .ok port
  | none => .error (.badPort text)

/-- A host in brackets, after the opening one. What follows the closing bracket
counts only if it begins with a colon. -/
def bracketedHost (s : List Char) : Except Fault Address :=
  match Text.cutFirst ']' s with
  | none => .error .openHost
  | some (host, ':' :: port) => do return .tcp host (← readPort port)
  | some (host, _) => .ok (.tcp host defaultPort)

/-- A host, and a port behind the last colon. -/
def hostAndPort (s : List Char) : Except Fault Address :=
  match s with
  | '[' :: r => bracketedHost r
  | _ =>
    match Text.cutLast ':' s with
    | some (host, port) => do return .tcp host (← readPort port)
    | none => .ok (.tcp s defaultPort)

/-- The name of a network, and the address in parentheses behind it. -/
def networkParts (net : List Char) : Except Fault (List Char × List Char) :=
  match Text.cutFirst '(' net with
  | none => .ok (net, [])
  | some (network, rest) =>
    match Text.before? [')'] rest with
    | some address => .ok (network, address)
    | none => .error .openAddress

def readAddress (net : List Char) : Except Fault Address := do
  let (network, address) ← networkParts net
  if network = "tcp".toList ∨ network.isEmpty then
    if address.isEmpty then .ok (.tcp defaultHost defaultPort) else hostAndPort address
  else if network = "unix".toList then
    if address.isEmpty then .error .noSocket else .ok (.unix address)
  else .error (.unsupportedNetwork network)

/-! ## Whole texts -/

/-- A user and, after the first colon, a password. -/
def readCredentials (s : List Char) : List Char × Option (List Char) :=
  match Text.cutFirst ':' s with
  | some (user, password) => (user, some password)
  | none => (s, none)

def readParam (s : List Char) : List Char × List Char := (Text.cutFirst '=' s).getD (s, [])

def readParams (query : List Char) : List (List Char × List Char) :=
  ((Text.pieces '&' query).filter (!·.isEmpty)).map readParam

def nonEmpty (s : List Char) : Option (List Char) := if s.isEmpty then none else some s

/-- The last slash comes before the database, the last at sign in front of it
before the address: a password may have both. -/
def parts (dsn : List Char) : Except Fault Dsn := do
  let some (head, tail) := Text.cutLast '/' dsn | .error .noDatabaseSlash
  let (database, query) := (Text.cutFirst '?' tail).getD (tail, [])
  let (credentials, net) :=
    match Text.cutLast '@' head with
    | some (c, net) => (some (readCredentials c), net)
    | none => (none, head)
  let address ← readAddress net
  return {
    user := credentials.bind fun (user, _) => nonEmpty user
    password := credentials.bind Prod.snd
    address
    database := nonEmpty database
    params := readParams query }

def read (dsn : List Char) : Except Error Dsn :=
  match parts dsn with
  | .ok d => .ok d
  | .error fault =>
    .error (.connection
      (.ofList ("Invalid DSN '".toList ++ mask dsn ++ "': ".toList ++ fault.text))
      "Use the form user:password@tcp(host:port)/database?param=value")

/-! ## What a text asks for -/

/-- The value of a parameter, the first one if it is given twice. -/
def param (d : Dsn) (key : List Char) : Option (List Char) := d.params.lookup key

def tlsMode (d : Dsn) : TlsMode :=
  match d.param "tls".toList with
  | some v => TlsMode.ofValue v
  | none => .disabled

def Address.text : Address → List Char
  | tcp host port => host ++ ':' :: Number.digitsOf port
  | unix socket => socket

/-- Address and database, without user and password. -/
def summary (d : Dsn) : List Char :=
  match d.database with
  | some database => d.address.text ++ '/' :: database
  | none => d.address.text

/-- What a connection is opened with. -/
structure Options where
  host : List Char
  port : Nat
  socket : Option (List Char)
  user : List Char
  password : Option (List Char)
  database : Option (List Char)
  charset : List Char
  tls : TlsMode
  deriving Repr, DecidableEq

def options (d : Dsn) : Options :=
  let local_ : Options :=
    { host := "localhost".toList
      port := defaultPort
      socket := none
      user := d.user.getD "root".toList
      password := d.password
      database := d.database
      charset := (d.param "charset".toList).getD "utf8mb4".toList
      tls := d.tlsMode }
  match d.address with
  | .tcp host port => { local_ with host, port }
  | .unix socket => { local_ with socket := some socket }

def knownParams : List (List Char) := ["tls".toList, "charset".toList]

/-- Parameters that have no effect. -/
def ignoredParams (d : Dsn) : List (List Char) :=
  (d.params.map Prod.fst).filter (!knownParams.contains ·)

end Dsn

end QueryGate
