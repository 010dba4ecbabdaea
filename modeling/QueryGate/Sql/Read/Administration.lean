import QueryGate.Sql.Read.Definition
/-!
# Statements that administer

Assignments, transactions, privileges, locks, prepared statements and calls. Of
each only its category and its keyword are kept.
-/

namespace QueryGate.Sql.Read

open Reader

variable (g : Grammar)

/-! ## Assignments -/

def isolationLevel : Reader Unit := do
  if !(← accept ["READ", "UNCOMMITTED"]) then
    if !(← accept ["READ", "COMMITTED"]) then
      if !(← accept ["REPEATABLE", "READ"]) then
        let _ ← requireOne ["SERIALIZABLE", "SNAPSHOT"]

/-- Modes of a transaction. One has to follow a comma. -/
def transactionModes (required : Bool) : Nat → Reader Unit
  | 0 => return ()
  | n + 1 => do
    let found ←
      if ← accept ["ISOLATION", "LEVEL"] then do
        isolationLevel
        pure true
      else if ← accept ["READ", "ONLY"] then pure true
      else accept ["READ", "WRITE"]
    if found then transactionModes (← acceptSymbol ",") n
    else if required then fail

def anyTransactionModes : Reader Unit := do
  let ts ← rest
  transactionModes false ts.length

def scope : Reader (Option String) := acceptOne ["SESSION", "LOCAL", "GLOBAL"]

def assignmentSign : Reader Unit := do
  if !(← acceptSymbol "=") then require ["TO"]

def setAssignment : Reader Unit := do
  let _ ← scope
  let _ ← name
  assignmentSign
  let _ ← g.anyExpr

def setRole : Reader Unit := do
  require ["ROLE"]
  let _ ← ident

def setZone : Reader Unit := do
  let assigned ← acceptSymbol "="
  let isList ← if assigned then pure true else accept ["TO"]
  if isList then
    let _ ← g.exprs
  else
    let _ ← g.anyExpr

def setNames : Reader Unit := do
  if !(← accept ["DEFAULT"]) then
    let _ ← ident
    if ← accept ["COLLATE"] then textOrName

def setTransaction : Reader Unit := do
  if ← accept ["SNAPSHOT"] then
    let _ ← literal
  else anyTransactionModes

/-- One variable and its values. -/
def setValues : Reader Unit := do
  let _ ← name
  assignmentSign
  let _ ← g.exprs

/-- A `SET` that is no list of assignments, after its scope; says whether it is
one. -/
def setSpecial (hasScope : Bool) : Reader Bool := do
  if (← attempt setRole).isSome then return true
  else if ← accept ["TIME", "ZONE"] then setZone g
  else if ← accept ["TIMEZONE"] then setZone g
  else if ← accept ["NAMES"] then setNames
  else if ← accept ["CHARACTERISTICS"] then
    require ["AS", "TRANSACTION"]
    anyTransactionModes
  else if ← accept ["TRANSACTION"] then setTransaction
  else if ← accept ["AUTHORIZATION"] then
    if !hasScope then fail
    let _ ← ident
  else return false
  return true

/-- A `SET`, after its keyword. -/
def set : Reader Statement := do
  let ts ← rest
  let hasScope := (← scope).isSome
  if !(← setSpecial g hasScope) then
    fun _ =>
      (do
        if (← attempt (list (setAssignment g))).isNone then setValues g) ts
  return .other .assignment "SET"

/-! ## Transactions -/

def transactionWord : Reader Unit := do
  let _ ← acceptOne ["TRANSACTION", "WORK", "TRAN"]

def chain : Reader Unit := do
  transactionWord
  if ← accept ["AND"] then
    let _ ← accept ["NO"]
    require ["CHAIN"]

def start : Reader Statement := do
  require ["TRANSACTION"]
  anyTransactionModes
  return .other .transaction "START"

def beginTransaction : Reader Statement := do
  transactionWord
  anyTransactionModes
  return .other .transaction "BEGIN"

def rollback : Reader Statement := do
  chain
  if ← accept ["TO"] then
    let _ ← accept ["SAVEPOINT"]
    let _ ← ident
  return .other .transaction "ROLLBACK"

/-! ## Privileges -/

def privilegeWords : List String :=
  ["SELECT", "INSERT", "UPDATE", "DELETE", "CREATE", "DROP", "EXECUTE", "TRUNCATE", "REFERENCES",
   "TRIGGER", "CONNECT", "TEMPORARY", "USAGE", "EXEC", "READ", "WRITE", "MODIFY", "MONITOR",
   "OPERATE", "OWNERSHIP", "REPLICATE", "APPLY", "AUDIT"]

def privilege : Reader Unit := do
  let _ ← requireOne privilegeWords
  columnNames

/-- A name of which a part may be a star. -/
def grantedName : Nat → Reader Unit
  | 0 => fail
  | n + 1 => do
    if !(← acceptSymbol "*") then
      let _ ← ident
    if ← acceptSymbol "." then grantedName n

def grantee : Reader Unit := do
  let _ ← acceptOne ["ROLE", "USER", "GROUP", "SHARE"]
  let _ ← name
  if ← acceptSymbol "@" then
    let _ ← ident

def privileges (before : String) : Reader Unit := do
  if ← accept ["ALL"] then
    let _ ← accept ["PRIVILEGES"]
  else
    let _ ← list privilege
  if ← accept ["ON"] then
    let _ ← acceptOne ["TABLE", "SCHEMA", "DATABASE", "SEQUENCE", "VIEW"]
    let ts ← rest
    let _ ← list (grantedName ts.length)
  require [before]
  let _ ← list grantee

def grant : Reader Statement := do
  privileges "TO"
  let _ ← accept ["WITH", "GRANT", "OPTION"]
  return .other .administration "GRANT"

def revoke : Reader Statement := do
  privileges "FROM"
  let _ ← acceptOne ["CASCADE", "RESTRICT"]
  return .other .administration "REVOKE"

/-! ## Servers and locks -/

def kill : Reader Statement := do
  let _ ← acceptOne ["CONNECTION", "QUERY"]
  unsigned
  return .other .administration "KILL"

/-- What follows `FLUSH TABLES`: tables, locks and any keywords, at most `n` of
them, up to the first unit that is no word. -/
def flushTables : Nat → Reader Unit
  | 0 => return ()
  | n + 1 => do
    match ← peek with
    | none => return ()
    | some (.word letters key) =>
      if (Token.word letters key).isPlain then
        let _ ← list name
      else
        match ← next with
        | .word _ (some "WITH") =>
          let _ ← accept ["READ", "LOCK"]
        | .word _ (some "FOR") =>
          let _ ← accept ["EXPORT"]
        | _ => pure ()
      flushTables n
    | some _ =>
      let _ ← next

def flush : Reader Statement := do
  let _ ← acceptOne ["NO_WRITE_TO_BINLOG", "LOCAL"]
  match ← acceptOne ["BINARY", "ENGINE", "ERROR", "GENERAL", "RELAY", "SLOW", "TABLES"] with
  | some "TABLES" =>
    let ts ← rest
    flushTables (ts.length + 1)
  | some "RELAY" =>
    require ["LOGS"]
    if ← accept ["FOR", "CHANNEL"] then
      let _ ← name
  | some _ => require ["LOGS"]
  | none =>
    let _ ← requireOne
      ["HOSTS", "PRIVILEGES", "OPTIMIZER_COSTS", "STATUS", "USER_RESOURCES", "LOGS"]
  return .other .administration "FLUSH"

def lockedTable : Reader Unit := do
  let _ ← ident
  let explicit ← accept ["AS"]
  if explicit || !(← peek).any fun t => t.isKey "READ" || t.isKey "WRITE" || t.isKey "LOW_PRIORITY"
  then
    let _ ← ident
  if ← accept ["READ"] then
    let _ ← accept ["LOCAL"]
  else
    let _ ← accept ["LOW_PRIORITY"]
    require ["WRITE"]

def lock : Reader Statement := do
  let _ ← list lockedTable
  return .other .administration "LOCK"

def analyzeClauses : Nat → Reader Unit
  | 0 => return ()
  | n + 1 => do
    match ← acceptOne ["PARTITION", "NOSCAN", "FOR", "CACHE", "COMPUTE"] with
    | none => return ()
    | some "PARTITION" => partitions g
    | some "FOR" =>
      require ["COLUMNS"]
      let _ ← attempt (list ident)
    | some "CACHE" => require ["METADATA"]
    | some "COMPUTE" => require ["STATISTICS"]
    | some _ => pure ()
    analyzeClauses n

def analyze : Reader Statement := do
  let _ ← accept ["TABLE"]
  let _ ← name
  let ts ← rest
  analyzeClauses g ts.length
  return .other .administration "ANALYZE"

/-! ## Calls and prepared statements -/

def callStatement : Reader Statement := do
  let n ← name
  if ← atSymbol "(" then
    let _ ← call g n
  return .other .administration "CALL"

def prepare : Reader Statement := do
  let _ ← ident
  if ← acceptSymbol "(" then
    let _ ← list dataType
    requireSymbol ")"
  require ["AS"]
  let _ ← g.statement
  return .other .administration "PREPARE"

/-- An expression and a label behind `AS`. -/
def labelledExpr : Reader Unit := do
  let _ ← g.anyExpr
  if ← accept ["AS"] then
    let _ ← ident

/-- Whether a list of parameters without parentheses ends here. -/
def atParametersEnd : Reader Bool := do
  return (← peek).all fun t =>
    t = .symbol ";" || t.isKey "USING" || t.isKey "OUTPUT" || t.isKey "DEFAULT"

def execute : Reader Statement := do
  let _ ← name
  if ← acceptSymbol "(" then
    if !(← acceptSymbol ")") then
      let _ ← g.exprs
      requireSymbol ")"
  else if !(← atParametersEnd) then
    let _ ← g.exprs
  if ← accept ["INTO"] then
    let _ ← list ident
  if ← accept ["USING"] then
    let _ ← list (labelledExpr g)
  let _ ← accept ["OUTPUT"]
  let _ ← accept ["DEFAULT"]
  return .other .administration "EXECUTE"

def deallocate : Reader Statement := do
  let _ ← accept ["PREPARE"]
  let _ ← ident
  return .other .administration "DEALLOCATE"

def renamedTable : Reader Unit := do
  let _ ← name
  require ["TO"]
  let _ ← name

def rename : Reader Statement := do
  require ["TABLE"]
  let _ ← list renamedTable
  return .other .unsupported "RENAME"

/-! ## Statements of other kinds

What else the grammar has a first word for. No reader may run any of it. -/

def cursorCount : Reader Unit := do
  let .number _ ← next | fail

/-- Which rows a cursor fetches. -/
def fetchDirection : Reader Unit := do
  match ← acceptOne ["NEXT", "PRIOR", "FIRST", "LAST", "ALL", "ABSOLUTE", "RELATIVE", "FORWARD",
      "BACKWARD"] with
  | some "ABSOLUTE" | some "RELATIVE" | none => cursorCount
  | some "FORWARD" | some "BACKWARD" =>
    if !(← accept ["ALL"]) then
      let _ ← attempt cursorCount
  | some _ => return ()

def fetchRows : Reader Unit := do
  fetchDirection
  let _ ← requireOne ["FROM", "IN"]
  let _ ← ident
  if ← accept ["INTO"] then
    let _ ← name

def declareCursor : Reader Unit := do
  let _ ← ident
  let _ ← accept ["BINARY"]
  let _ ← acceptOne ["INSENSITIVE", "ASENSITIVE"]
  if !(← accept ["NO", "SCROLL"]) then
    let _ ← accept ["SCROLL"]
  require ["CURSOR"]
  if (← acceptOne ["WITH", "WITHOUT"]).isSome then require ["HOLD"]
  require ["FOR"]
  let _ ← g.query

def pragmaValue : Reader Unit := do
  match ← literal with
  | .literal (.number _ :: _) | .literal (.text .single _ :: _) | .literal (.text .double _ :: _)
  | .literal (.placeholder _ :: _) => return ()
  | _ => fail

def pragma : Reader Unit := do
  let _ ← name
  if ← acceptSymbol "(" then
    pragmaValue
    requireSymbol ")"
  else if ← acceptSymbol "=" then pragmaValue

def vacuum : Reader Unit := do
  if (← acceptOne ["FULL", "REINDEX", "RECLUSTER"]).isNone then
    if !(← accept ["SORT", "ONLY"]) then
      let _ ← accept ["DELETE", "ONLY"]
  if (← attempt name).isSome then
    if ← accept ["TO"] then
      let _ ← literal
      require ["PERCENT"]
    let _ ← accept ["BOOST"]

def copy : Reader Unit := do
  if ← atSymbol "(" then
    let _ ← parenthesized g.query
    require ["TO"]
  else
    let _ ← name
    columnNames
    let _ ← requireOne ["FROM", "TO"]
  if ← accept ["PROGRAM"] then textOrName
  else if !(← accept ["STDOUT"]) then textOrName
  let _ ← accept ["WITH"]

def repairMetadata : Reader Unit := do
  let _ ← accept ["REPAIR"]
  require ["TABLE"]
  let _ ← name
  if (← acceptOne ["ADD", "DROP", "SYNC"]).isSome then require ["PARTITIONS"]

def cacheTable : Reader Unit := do
  require ["TABLE"]
  let _ ← name
  if !(← peek).all (· = .symbol ";") then
    let _ ← accept ["AS"]
    let _ ← g.query

/-- The rest of a statement that begins with one of these words; none for any
other word. -/
def other? : String → Option (Reader Unit)
  | "CLOSE" | "OPEN" => some do
    let _ ← ident
  | "FETCH" => some fetchRows
  | "DECLARE" => some (declareCursor g)
  | "RETURN" => some do
    let _ ← attempt g.anyExpr
  | "PRINT" => some do
    let _ ← g.anyExpr
  | "RAISE" => some do
    if ← accept ["USING"] then
      require ["MESSAGE"]
      requireSymbol "="
      let _ ← g.anyExpr
    else
      let _ ← attempt g.anyExpr
  | "ASSERT" => some do
    let _ ← g.anyExpr
    if ← accept ["AS"] then
      let _ ← g.anyExpr
  | "ATTACH" => some do
    let _ ← accept ["DATABASE"]
    let _ ← g.anyExpr
    require ["AS"]
    let _ ← ident
  | "DISCARD" => some do
    let _ ← requireOne ["ALL", "PLANS", "SEQUENCES", "TEMP", "TEMPORARY"]
  | "RESET" => some do
    let _ ← name
  | "PRAGMA" => some pragma
  | "VACUUM" => some vacuum
  | "COPY" => some (copy g)
  | "MSCK" => some repairMetadata
  | "CACHE" => some (cacheTable g)
  | "UNCACHE" => some do
    require ["TABLE"]
    optionalIfExists
    let _ ← name
  | "DENY" => some (privileges "TO")
  | _ => none

end QueryGate.Sql.Read
