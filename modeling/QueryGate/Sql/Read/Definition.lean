import QueryGate.Sql.Read.Query
/-!
# Statements that define

`CREATE`, `ALTER`, `DROP` and `TRUNCATE`. They are read to know them for what
they are; of each only its category and its first words are kept.
-/

namespace QueryGate.Sql.Read

open Reader

variable (g : Grammar)

def optionalIfExists : Reader Unit := do
  let _ ← accept ["IF", "EXISTS"]

def optionalIfNotExists : Reader Unit := do
  let _ ← accept ["IF", "NOT", "EXISTS"]

def names : Reader Unit := do
  let _ ← list name

/-- Reads `CASCADE` or `RESTRICT`, if one comes next. -/
def dropBehavior : Reader Unit := do
  let _ ← acceptOne ["CASCADE", "RESTRICT"]

/-! ## Columns and constraints -/

/-- Columns of a key, each with a length or an order. -/
def keyColumns : Reader Unit :=
  parenthesized do
    let _ ← sortKeys g

def plainColumns : Reader Unit :=
  parenthesized do
    let _ ← list ident

def indexMethod : Reader Unit := do
  if ← accept ["USING"] then
    let _ ← ident

/-- Reads `USING` and `COMMENT` behind the columns of a key, any number of times. -/
def indexOptions : Nat → Reader Unit
  | 0 => return ()
  | n + 1 => do
    if ← accept ["USING"] then
      let _ ← ident
      indexOptions n
    else if ← accept ["COMMENT"] then
      let .text .single _ ← next | fail
      indexOptions n

/-- The columns of a key and its options. -/
def key : Reader Unit := do
  indexMethod
  keyColumns g
  let ts ← rest
  indexOptions ts.length

def keyOrIndex : Reader Unit := do
  let _ ← acceptOne ["INDEX", "KEY"]

def optionalIdent : Reader Unit := do
  let _ ← attempt ident

/-- A name that may be left out before `USING`. -/
def optionalKeyName : Reader Unit := do
  if !(← peek).any (·.isKey "USING") then optionalIdent

/-- When a constraint is looked at. -/
def enforcement : Reader Unit := do
  if !(← accept ["ENFORCED"]) then
    let _ ← accept ["NOT", "ENFORCED"]

def referenceAction : Reader Unit := do
  if !(← accept ["SET", "NULL"]) then
    if !(← accept ["SET", "DEFAULT"]) then
      if !(← accept ["NO", "ACTION"]) then
        let _ ← requireOne ["CASCADE", "RESTRICT"]

/-- What follows the columns of `REFERENCES`, at most `n` clauses. -/
def referenceTail : Nat → Reader Unit
  | 0 => return ()
  | n + 1 => do
    if ← accept ["MATCH"] then
      let _ ← requireOne ["FULL", "PARTIAL", "SIMPLE"]
      referenceTail n
    else if ← accept ["ON"] then
      let _ ← requireOne ["DELETE", "UPDATE"]
      referenceAction
      referenceTail n

def reference : Reader Unit := do
  let _ ← name
  columnNames
  referenceTail 3

/-- A constraint of a table, if one comes next. -/
def constraint? : Reader Bool := do
  let named ← accept ["CONSTRAINT"]
  if named then
    let _ ← ident
  if ← accept ["PRIMARY"] then
    require ["KEY"]
    optionalKeyName
    key g
    return true
  else if ← accept ["UNIQUE"] then
    keyOrIndex
    optionalKeyName
    key g
    return true
  else if ← accept ["FOREIGN"] then
    require ["KEY"]
    optionalIdent
    plainColumns
    require ["REFERENCES"]
    reference
    return true
  else if ← accept ["CHECK"] then
    let _ ← parenthesized g.anyExpr
    enforcement
    return true
  else if named then fail
  else if (← acceptOne ["INDEX", "KEY"]).isSome then
    optionalKeyName
    key g
    return true
  else if (← acceptOne ["FULLTEXT", "SPATIAL"]).isSome then
    keyOrIndex
    optionalIdent
    keyColumns g
    return true
  else return false

def generated : Reader Unit := do
  let _ ← parenthesized g.anyExpr
  let _ ← acceptOne ["STORED", "VIRTUAL", "PERSISTENT"]

/-- One option of a column, if one comes next. -/
def columnOption? : Reader Bool := do
  if ← accept ["NOT", "NULL"] then return true
  else if ← accept ["PRIMARY", "KEY"] then return true
  else if ← accept ["CHARACTER", "SET"] then
    let _ ← name
    return true
  else if ← accept ["ON", "UPDATE"] then
    let _ ← g.anyExpr
    return true
  else if ← accept ["GENERATED", "ALWAYS", "AS"] then
    generated g
    return true
  else
    match ← acceptOne ["NULL", "AUTO_INCREMENT", "UNIQUE", "COMMENT", "COLLATE", "DEFAULT",
        "REFERENCES", "CHECK", "AS", "SRID"] with
    | none => return false
    | some "COMMENT" =>
      let .text .single _ ← next | fail
      return true
    | some "COLLATE" =>
      let _ ← name
      return true
    | some "DEFAULT" | some "SRID" =>
      let _ ← g.anyExpr
      return true
    | some "REFERENCES" =>
      reference
      return true
    | some "CHECK" =>
      let _ ← parenthesized g.anyExpr
      enforcement
      return true
    | some "AS" =>
      generated g
      return true
    | some _ => return true

/-- Options of a column, any number of them. -/
def columnOptions : Nat → Reader Unit
  | 0 => return ()
  | n + 1 => do
    if ← accept ["CONSTRAINT"] then
      let _ ← ident
      if !(← columnOption? g) then fail
      columnOptions n
    else if ← columnOption? g then columnOptions n

def columnDefinition : Reader Unit := do
  let _ ← ident
  dataType
  let ts ← rest
  columnOptions g ts.length

def tableElement : Reader Unit := do
  if !(← constraint? g) then
    match ← peek with
    | some (.word ..) => columnDefinition g
    | _ => fail

/-- Options of a table such as `ENGINE = InnoDB`, any number of them. -/
def tableOptions : Nat → Reader Unit
  | 0 => return ()
  | n + 1 => do
    let _ ← acceptSymbol ","
    let _ ← accept ["DEFAULT"]
    let found ←
      if ← accept ["CHARACTER", "SET"] then pure true
      else pure (← acceptOne ["ENGINE", "CHARSET", "COLLATE", "COMMENT", "AUTO_INCREMENT",
        "ROW_FORMAT", "KEY_BLOCK_SIZE", "MAX_ROWS", "MIN_ROWS", "AVG_ROW_LENGTH", "CHECKSUM",
        "PACK_KEYS", "STATS_PERSISTENT"]).isSome
    if found then
      let _ ← acceptSymbol "="
      match ← next with
      | .word .. | .number _ | .text .. => tableOptions n
      | _ => fail

/-! ## CREATE -/

def createTable : Reader Unit := do
  optionalIfNotExists
  let _ ← name
  if ← accept ["LIKE"] then
    let _ ← name
  else
    if ← acceptSymbol "(" then
      if !(← acceptSymbol ")") then
        let _ ← list (tableElement g)
        requireSymbol ")"
    let ts ← rest
    tableOptions ts.length
    let explicit ← accept ["AS"]
    if explicit || (← peek).any (·.isKey "SELECT") then
      let _ ← g.query

def createView : Reader Unit := do
  optionalIfNotExists
  let _ ← name
  columnNames
  require ["AS"]
  let _ ← g.query

def createIndex : Reader Unit := do
  let conditional ← accept ["IF", "NOT", "EXISTS"]
  let unnamed ← if conditional then pure false else accept ["ON"]
  if !unnamed then
    let _ ← name
    indexMethod
    require ["ON"]
  let _ ← name
  key g
  if ← accept ["WHERE"] then
    let _ ← g.anyExpr

/-- A routine's parameters. -/
def parameter : Reader Unit := do
  let _ ← acceptOne ["IN", "OUT", "INOUT"]
  let _ ← ident
  dataType
  if ← acceptSymbol "=" then
    let _ ← g.anyExpr

/-- Statements, each with a semicolon behind it, up to `END` or the end. -/
def statements : Nat → Reader Unit
  | 0 => return ()
  | n + 1 => do
    match ← peek with
    | none => return ()
    | some t =>
      if !t.isKey "END" then
        let _ ← g.statement
        requireSymbol ";"
        statements n

/-- The statements of a routine or a trigger. -/
def statementBody : Reader Unit := do
  let block ← accept ["BEGIN"]
  let ts ← rest
  statements g ts.length
  if block then require ["END"]

def createProcedure : Reader Unit := do
  let _ ← name
  if ← acceptSymbol "(" then
    if !(← acceptSymbol ")") then
      let _ ← list (parameter g)
      requireSymbol ")"
  if ← accept ["LANGUAGE"] then
    let _ ← ident
  require ["AS"]
  statementBody g

def triggerEvent : Reader Unit := do
  match ← requireOne ["INSERT", "UPDATE", "DELETE", "TRUNCATE"] with
  | "UPDATE" =>
    if ← accept ["OF"] then
      let _ ← list ident
  | _ => return ()

/-- Events with `OR` between them, at most `n` more after the first. -/
def triggerEvents : Nat → Reader Unit
  | 0 => triggerEvent
  | n + 1 => do
    triggerEvent
    if ← accept ["OR"] then triggerEvents n

def createTrigger : Reader Unit := do
  let _ ← name
  if !(← accept ["INSTEAD", "OF"]) then
    let _ ← acceptOne ["FOR", "BEFORE", "AFTER"]
  let ts ← rest
  triggerEvents ts.length
  require ["ON"]
  let _ ← name
  if ← accept ["FOR"] then
    let _ ← accept ["EACH"]
    let _ ← requireOne ["ROW", "STATEMENT"]
  if ← accept ["WHEN"] then
    let _ ← g.anyExpr
  if ← accept ["EXECUTE"] then
    let _ ← requireOne ["FUNCTION", "PROCEDURE"]
    let f ← name
    if ← atSymbol "(" then
      let _ ← call g f
  else statementBody g

/-- Reads `name = value` any number of times, with commas or without. -/
def settings : Nat → Reader Unit
  | 0 => return ()
  | n + 1 => do
    if ← acceptSymbol "," then settings n
    else
      match ← peek with
      | some (.word ..) =>
        let _ ← next
        requireSymbol "="
        match ← next with
        | .word .. | .number _ | .text .single _ => settings n
        | _ => fail
      | _ => return ()

def createServer : Reader Unit := do
  optionalIfNotExists
  let _ ← name
  if ← accept ["TYPE"] then
    let _ ← ident
  if ← accept ["VERSION"] then
    let _ ← ident
  require ["FOREIGN", "DATA", "WRAPPER"]
  let _ ← name
  if ← accept ["OPTIONS"] then
    parenthesized do
      let _ ← list do
        let _ ← ident
        ident

/-- What may stand between `CREATE` and `VIEW`; the answer is its first word. -/
def viewPrelude : Reader (Option String) := do
  let algorithm ← accept ["ALGORITHM"]
  if algorithm then
    requireSymbol "="
    let _ ← requireOne ["UNDEFINED", "MERGE", "TEMPTABLE"]
  let definer ← accept ["DEFINER"]
  if definer then
    requireSymbol "="
    let n ← name
    if n.length = 1 then
      if ← acceptLoose "@" then
        let _ ← ident
  let security ← accept ["SQL", "SECURITY"]
  if security then
    let _ ← requireOne ["DEFINER", "INVOKER"]
  return if algorithm then some "ALGORITHM" else if definer then some "DEFINER"
    else if security then some "SQL" else none

/-- A `CREATE`, after its keyword. -/
def create : Reader Statement := do
  let replaces ← accept ["OR", "REPLACE"]
  let alters ← accept ["OR", "ALTER"]
  let reach ← acceptOne ["LOCAL", "GLOBAL"]
  let transient ← accept ["TRANSIENT"]
  let temporary ← acceptOne ["TEMPORARY", "TEMP"]
  let prelude ← viewPrelude
  let brief := temporary.map fun _ => "TEMPORARY"
  -- The first of the words that the statement has, in the order given.
  let made (category : Category) (words : List (Option String)) (last : String) : Statement :=
    let second := (words.filterMap id).headD last
    .other category ("CREATE " ++ (if replaces || alters then "OR" else second))
  if ← accept ["TABLE"] then
    createTable g
    return made .definition [reach, brief, if transient then some "TRANSIENT" else none] "TABLE"
  else if ← accept ["VIEW"] then
    createView g
    return made .definition [prelude, brief] "VIEW"
  else if ← accept ["TRIGGER"] then
    createTrigger g
    return made .definition [brief] "TRIGGER"
  else if ← accept ["USER"] then
    optionalIfNotExists
    let _ ← ident
    let ts ← rest
    settings ts.length
    return made .unsupported [] "USER"
  else if replaces then fail
  else if ← accept ["INDEX"] then
    createIndex g
    return .other .definition "CREATE INDEX"
  else if ← accept ["UNIQUE", "INDEX"] then
    createIndex g
    return .other .definition "CREATE UNIQUE"
  else
    match ← requireOne ["SCHEMA", "DATABASE", "ROLE", "SEQUENCE", "PROCEDURE", "SERVER"] with
    | "ROLE" =>
      optionalIfNotExists
      names
      return .other .unsupported "CREATE ROLE"
    | "SEQUENCE" =>
      optionalIfNotExists
      let _ ← name
      return made .unsupported [brief] "SEQUENCE"
    | "PROCEDURE" =>
      createProcedure g
      return made .definition [] "PROCEDURE"
    | "SERVER" =>
      createServer
      return .other .unsupported "CREATE SERVER"
    | kind =>
      optionalIfNotExists
      let _ ← name
      return .other .databaseDefinition ("CREATE " ++ kind)

/-! ## ALTER -/

def columnPlace : Reader Unit := do
  if !(← accept ["FIRST"]) then
    if ← accept ["AFTER"] then
      let _ ← ident

def partitions : Reader Unit := do
  let _ ← parenthesized g.exprs

/-- What follows `DROP` in a change of a table. -/
def dropPart : Reader Unit := do
  if ← accept ["IF", "EXISTS", "PARTITION"] then partitions g
  else if ← accept ["PARTITION"] then partitions g
  else if ← accept ["CONSTRAINT"] then
    optionalIfExists
    let _ ← ident
    dropBehavior
  else if ← accept ["PRIMARY", "KEY"] then dropBehavior
  else if ← accept ["FOREIGN", "KEY"] then
    let _ ← ident
    dropBehavior
  else if ← accept ["INDEX"] then
    let _ ← ident
  else
    let _ ← accept ["COLUMN"]
    optionalIfExists
    let _ ← ident
    dropBehavior

def alterColumn : Reader Unit := do
  let _ ← ident
  if ← accept ["SET", "DEFAULT"] then
    let _ ← g.anyExpr
  else if ← accept ["SET", "NOT", "NULL"] then return ()
  else if ← accept ["SET", "DATA", "TYPE"] then dataType
  else if ← accept ["TYPE"] then dataType
  else if ← accept ["DROP", "DEFAULT"] then return ()
  else require ["DROP", "NOT", "NULL"]

def tableChange : Reader Unit := do
  match ← requireOne ["ADD", "DROP", "RENAME", "MODIFY", "CHANGE", "ALTER", "LOCK", "ALGORITHM",
      "AUTO_INCREMENT"] with
  | "ADD" =>
    if !(← constraint? g) then
      optionalIfNotExists
      let _ ← accept ["COLUMN"]
      columnDefinition g
      columnPlace
  | "DROP" => dropPart g
  | "RENAME" =>
    if (← acceptOne ["TO", "AS"]).isSome then
      let _ ← name
    else
      let _ ← accept ["COLUMN"]
      let _ ← ident
      require ["TO"]
      let _ ← ident
  | "MODIFY" =>
    let _ ← accept ["COLUMN"]
    columnDefinition g
    columnPlace
  | "CHANGE" =>
    let _ ← accept ["COLUMN"]
    let _ ← ident
    columnDefinition g
    columnPlace
  | "ALTER" =>
    let _ ← accept ["COLUMN"]
    alterColumn g
  | "LOCK" =>
    let _ ← acceptSymbol "="
    let _ ← requireOne ["DEFAULT", "EXCLUSIVE", "NONE", "SHARED"]
  | "ALGORITHM" =>
    let _ ← acceptSymbol "="
    let _ ← requireOne ["DEFAULT", "INSTANT", "INPLACE", "COPY"]
  | _ =>
    let _ ← acceptSymbol "="
    let .number _ ← next | fail

/-- A change of a schema, after its name. -/
def schemaChange : Reader Unit := do
  if ← accept ["SET", "DEFAULT", "COLLATE"] then
    let _ ← g.anyExpr
  else if ← accept ["RENAME", "TO"] then
    let _ ← name
  else
    require ["OWNER", "TO"]
    let _ ← ident

/-- An `ALTER`, after its keyword. -/
def alter : Reader Statement := do
  match ← requireOne ["TABLE", "VIEW", "INDEX", "USER", "SCHEMA"] with
  | "TABLE" =>
    optionalIfExists
    let _ ← accept ["ONLY"]
    let _ ← name
    let _ ← list (tableChange g)
    return .other .definition "ALTER TABLE"
  | "VIEW" =>
    let _ ← name
    columnNames
    require ["AS"]
    let _ ← g.query
    return .other .definition "ALTER VIEW"
  | "INDEX" =>
    let _ ← name
    require ["RENAME", "TO"]
    let _ ← name
    return .other .definition "ALTER INDEX"
  | "USER" =>
    optionalIfExists
    let _ ← ident
    if ← accept ["RENAME", "TO"] then
      let _ ← ident
    return .other .unsupported "ALTER USER"
  | _ =>
    optionalIfExists
    let _ ← name
    schemaChange g
    return .other .unsupported "ALTER SCHEMA"

/-! ## DROP and TRUNCATE -/

/-- A routine's name, with its arguments or without them. -/
def routine : Reader Unit := do
  let _ ← name
  if ← acceptSymbol "(" then
    if !(← acceptSymbol ")") then
      let _ ← list dataType
      requireSymbol ")"

/-- What `DROP` may name by one word. -/
def dropKinds : List String :=
  ["TABLE", "VIEW", "INDEX", "ROLE", "SCHEMA", "DATABASE", "SEQUENCE", "STAGE", "USER", "STREAM",
   "TYPE", "FUNCTION", "PROCEDURE", "TRIGGER"]

def dropKind : Reader String := do
  if ← accept ["MATERIALIZED", "VIEW"] then return "MATERIALIZED" else requireOne dropKinds

/-- A `DROP`, after its keyword. -/
def drop : Reader Statement := do
  let temporary ← accept ["TEMPORARY"]
  let kind ← dropKind
  optionalIfExists
  if kind == "FUNCTION" || kind == "PROCEDURE" then
    let _ ← list routine
    dropBehavior
    return .other .definition ("DROP " ++ kind)
  else if kind == "TRIGGER" then
    let _ ← name
    if ← accept ["ON"] then
      let _ ← name
    dropBehavior
    return .other .definition ("DROP " ++ kind)
  else
    names
    let cascade ← accept ["CASCADE"]
    let restrict ← accept ["RESTRICT"]
    let purge ← accept ["PURGE"]
    if cascade && restrict || kind == "ROLE" && (cascade || restrict || purge) then fail
    if ← accept ["ON"] then
      let _ ← name
    return .other .definition (if temporary then "DROP TEMPORARY" else "DROP " ++ kind)

def truncated : Reader Unit := do
  let _ ← accept ["ONLY"]
  let _ ← name
  let _ ← acceptSymbol "*"

/-- A `TRUNCATE`, after its keyword. -/
def truncate : Reader Statement := do
  let _ ← accept ["TABLE"]
  optionalIfExists
  let _ ← list truncated
  if ← accept ["PARTITION"] then partitions g
  return .other .definition "TRUNCATE"

end QueryGate.Sql.Read
