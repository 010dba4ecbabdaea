/-!
# Errors

Every way a call can fail, its text, the advice that goes with it, and the
code it has towards a client.
-/

namespace QueryGate

inductive Error where
  | emptyInput
  | invalidIdentifier (name reason : String)
  | multipleStatements
  | unparsable (detail : String)
  | disallowedKind (kind : String)
  | dangerousFunction (function : String)
  | forbiddenSchema (schema : String)
  | blockedPattern (reason pattern : String)
  | unbalancedParentheses
  | fragmentTooLong (length limit : Nat)
  | forbiddenToken (token : String)
  | unknownConnection (name : String)
  | connection (message suggestion : String)
  | timeout (operation : String) (seconds : Nat)
  | database (message : String) (sqlState : Option String) (suggestion : String)
  | invalidInput (message : String)
  | internal (message : String)
  deriving Repr, DecidableEq, Inhabited

namespace Error

/-- The text of `unparsable` up to its detail. -/
def unparsableText : String := "Rejected: failed to parse"

def message : Error → String
  | emptyInput => "Rejected: empty input"
  | invalidIdentifier name reason => "Rejected: invalid identifier '" ++ name ++ "': " ++ reason
  | multipleStatements => "Rejected: multiple statements are not allowed"
  | unparsable detail => unparsableText ++ ": " ++ detail
  | disallowedKind kind => "Rejected: " ++ kind ++ " statements are not allowed (read-only)"
  | dangerousFunction function => "Rejected: dangerous function: " ++ function
  | forbiddenSchema schema => "Rejected: forbidden schema: " ++ schema
  | blockedPattern reason pattern => "Rejected: " ++ reason ++ " (" ++ pattern ++ ")"
  | unbalancedParentheses => "Rejected: unbalanced parentheses"
  | fragmentTooLong length limit =>
    "Rejected: fragment too long (" ++ toString length ++ " > " ++ toString limit ++ " characters)"
  | forbiddenToken token => "Rejected: forbidden token in fragment: " ++ token
  | unknownConnection name => "Unknown connection: " ++ name
  | connection message _ => "Connection failed: " ++ message
  | timeout operation seconds =>
    "Timeout: " ++ operation ++ " exceeded " ++ toString seconds ++ "s"
  | database message _ _ => "Database error: " ++ message
  | invalidInput message => "Invalid input: " ++ message
  | internal message => "Internal error: " ++ message

/-- The gate's verdicts, as opposed to failures at run time. -/
def isRejection : Error → Bool
  | emptyInput | invalidIdentifier .. | multipleStatements | unparsable _ | disallowedKind _
  | dangerousFunction _ | forbiddenSchema _ | blockedPattern .. | unbalancedParentheses
  | fragmentTooLong .. | forbiddenToken _ => true
  | _ => false

def isRetryable : Error → Bool
  | connection .. | timeout .. => true
  | _ => false

def suggestion? : Error → Option String
  | connection _ suggestion | database _ _ suggestion => some suggestion
  | unknownConnection _ => some "Call list_connections to see the configured connection names"
  | timeout .. => some "Consider increasing the timeout or narrowing the query"
  | invalidInput _ | internal _ => none
  | _ => some "Only single read-only statements (SELECT, SHOW, DESCRIBE, EXPLAIN) are accepted"

/-! ## Towards a client -/

/-- What a client is told about a failed call. -/
structure Report where
  code : Int
  message : String
  suggestion : Option String
  deriving Repr, DecidableEq

namespace Report

def invalidParams : Int := -32602
def resourceNotFound : Int := -32002
def internalError : Int := -32603

end Report

/-- A server's own error reads without a heading and with its SQL state; the
others read as their message. -/
def report (e : Error) : Report :=
  match e with
  | unknownConnection _ => ⟨Report.resourceNotFound, e.message, e.suggestion?⟩
  | database message (some state) _ =>
    ⟨Report.invalidParams, message ++ " (SQLSTATE: " ++ state ++ ")", e.suggestion?⟩
  | database message none _ => ⟨Report.invalidParams, message, e.suggestion?⟩
  | connection .. | timeout .. | internal _ => ⟨Report.internalError, e.message, e.suggestion?⟩
  | _ => ⟨Report.invalidParams, e.message, e.suggestion?⟩

end Error

/-! ## What can go wrong below a call -/

/-- An error the server answers with. -/
structure ServerError where
  code : Nat
  sqlState : Option String
  message : String
  deriving Repr, DecidableEq

/-- A failure of the connection layer. -/
inductive Failure where
  | configuration (text : String)
  | answered (error : ServerError)
  | noRow
  | poolTimedOut
  | poolClosed
  | io (text : String)
  | tls (text : String)
  | protocol (text : String)
  | columnDecode (index text : String)
  | decode (text : String)
  | workerCrashed
  | columnNotFound (name : String)
  deriving Repr, DecidableEq

def ServerError.text (e : ServerError) : String :=
  match e.sqlState with
  | some state => toString e.code ++ " (" ++ state ++ "): " ++ e.message
  | none => toString e.code ++ ": " ++ e.message

def Failure.text : Failure → String
  | configuration text => "error with configuration: " ++ text
  | answered e => "error returned from database: " ++ e.text
  | noRow => "no rows returned by a query that expected to return at least one row"
  | poolTimedOut => "pool timed out while waiting for an open connection"
  | poolClosed => "attempted to acquire a connection on a closed pool"
  | io text => "error communicating with database: " ++ text
  | tls text => "error occurred while attempting to establish a TLS connection: " ++ text
  | protocol text => "encountered unexpected or invalid data: " ++ text
  | columnDecode index text => "error occurred while decoding column " ++ index ++ ": " ++ text
  | decode text => "error occurred while decoding: " ++ text
  | workerCrashed => "attempted to communicate with a crashed background worker"
  | columnNotFound name => "no column found for name: " ++ name

def Failure.toError : Failure → Error
  | configuration text => .connection text "Check the DSN format and credentials"
  | answered e => .database e.message e.sqlState "Check the SQL syntax and referenced objects"
  | noRow => .database "No rows returned" none "Verify the query conditions match existing data"
  | poolTimedOut => .timeout "connection pool acquire" 30
  | poolClosed => .connection "Connection pool is closed" "Reconnect to the database"
  | io text =>
    .connection ("I/O error: " ++ text) "Check network connectivity and MySQL server status"
  | tls text =>
    .connection ("TLS error: " ++ text) "Verify the --ssl mode and the server certificate"
  | protocol text => .connection ("Protocol error: " ++ text) "Check MySQL server compatibility"
  | columnDecode index text => .internal ("Failed to decode column " ++ index ++ ": " ++ text)
  | decode text => .internal ("Decode error: " ++ text)
  | workerCrashed => .internal "Database worker crashed"
  | columnNotFound name =>
    .internal ("Unknown database error: " ++ (columnNotFound name).text)

end QueryGate
