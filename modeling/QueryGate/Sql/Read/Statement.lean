import QueryGate.Sql.Read.Administration
/-!
# Statements

`SHOW` and `EXPLAIN`, the choice of a statement by its first word, and the
grammar as a whole: each level is made from the one below it, down to the depth
limit.
-/

namespace QueryGate.Sql.Read

open Reader

variable (g : Grammar)

/-! ## SHOW -/

/-- Reads `LIKE`, `WHERE` or a bare pattern. -/
def showFilter : Reader (Option Expr) := do
  if (← acceptOne ["LIKE", "ILIKE"]).isSome then
    textOrName
    return none
  else if ← accept ["WHERE"] then return some (← g.anyExpr)
  else
    let _ ← attempt textOrName
    return none

/-- The schema or table whose objects are shown. -/
def showWithin : Reader (Option Name) := do
  if (← acceptOne ["FROM", "IN"]).isNone then return none
  match ← acceptOne ["ACCOUNT", "DATABASE", "SCHEMA", "TABLE", "VIEW"] with
  | some kind =>
    let ts ← rest
    let unnamed := areKeys ["STARTS", "WITH"] ts || areKeys ["LIMIT"] ts
    if unnamed && (kind == "DATABASE" || kind == "SCHEMA") then return none
    attempt name
  | none =>
    let n ← name
    if (← acceptOne ["FROM", "IN"]).isSome then return some ((← ident) :: n)
    else return some n

def listing (kind : String) : Reader Show := do
  let within ← showWithin
  let filter ← showFilter g
  if ← accept ["STARTS", "WITH"] then
    let _ ← literal
  let limit ←
    if ← accept ["LIMIT"] then
      if ← accept ["ALL"] then pure none else do pure (some (← g.anyExpr))
    else pure none
  if ← accept ["FROM"] then
    let _ ← literal
  return .listing kind within filter limit

/-- What a filter alone lists. -/
def filtered (kind : String) : Reader Show := do
  return .listing kind none (← showFilter g) none

/-- Words, and the units among them that are no words. -/
structure Words where
  words : List Ident
  passed : List Token

/-- The words up to an equals sign, a semicolon or the end. Units between them
that are no words are passed over. -/
def wordsOf : List Token → Words × List Token
  | [] => (⟨[], []⟩, [])
  | t :: r =>
    if t = .symbol "=" ∨ t = .symbol ";" then (⟨[], []⟩, t :: r)
    else
      let (ws, after) := wordsOf r
      match t with
      | .word text key => (⟨⟨text, key.isNone⟩ :: ws.words, ws.passed⟩, after)
      | _ => (⟨ws.words, t :: ws.passed⟩, after)

/-- A `SHOW`, after its keyword. -/
def showStatement : Reader Show := do
  let _ ← accept ["TERSE"]
  let extended ← accept ["EXTENDED"]
  let full ← accept ["FULL"]
  let _ ← accept ["SESSION"]
  let _ ← accept ["GLOBAL"]
  let _ ← accept ["EXTERNAL"]
  if (← acceptOne ["COLUMNS", "FIELDS"]).isSome then listing g "COLUMNS"
  else if ← accept ["TABLES"] then listing g "TABLES"
  else if ← accept ["MATERIALIZED", "VIEWS"] then listing g "VIEWS"
  else if ← accept ["VIEWS"] then listing g "VIEWS"
  else if ← accept ["FUNCTIONS"] then filtered g "FUNCTIONS"
  else if extended || full then fail
  else if ← accept ["CREATE"] then
    let kind ← requireOne ["TABLE", "TRIGGER", "FUNCTION", "PROCEDURE", "EVENT", "VIEW"]
    return .creation kind (← name)
  else
    match ← acceptOne ["COLLATION", "VARIABLES", "STATUS", "DATABASES", "SCHEMAS", "CHARSET"] with
    | some "DATABASES" =>
      let _ ← accept ["HISTORY"]
      listing g "DATABASES"
    | some "SCHEMAS" =>
      let _ ← accept ["HISTORY"]
      listing g "SCHEMAS"
    | some kind => filtered g kind
    | none =>
      if ← accept ["CHARACTER", "SET"] then filtered g "CHARSET"
      else
        fun ts =>
          let (ws, r) := wordsOf ts
          .ok (.words ws.words ws.passed, r)

/-! ## EXPLAIN -/

def explainFormat : Reader Unit := do
  let _ ← acceptSymbol "="
  let _ ← requireOne ["TEXT", "GRAPHVIZ", "JSON", "TRADITIONAL", "TREE"]

/-- An `EXPLAIN`, `DESCRIBE` or `DESC`, after its keyword: of a statement that
is none of these itself, or else of a table. -/
def explain : Reader Statement := do
  let analyze ←
    if ← accept ["QUERY", "PLAN"] then pure false
    else if ← accept ["ESTIMATE"] then pure false
    else do
      let analyze ← accept ["ANALYZE"]
      let _ ← accept ["VERBOSE"]
      if ← accept ["FORMAT"] then explainFormat
      pure analyze
  match ← attempt g.statement with
  | some (.explain ..) | some (.describe _) => fail
  | some s => return .explain analyze s
  | none =>
    let _ ← acceptOne ["EXTENDED", "FORMATTED"]
    return .describe (← name)

/-! ## The first word -/

def written (keyword : String) (r : Reader Write) : Reader Statement := do
  let _ ← r
  return .other .modification keyword

/-- The statement behind its first word. -/
def statementAfter (keyword : String) : Reader Statement :=
  match keyword with
  | "DESC" | "DESCRIBE" | "EXPLAIN" => explain g
  | "SHOW" => do return .show (← showStatement g)
  | "USE" => do return .use (← name)
  | "INSERT" | "REPLACE" => written keyword (insert g)
  | "UPDATE" => written keyword (update g)
  | "DELETE" => written keyword (delete g)
  | "MERGE" => written keyword (merge g)
  | "CREATE" => create g
  | "ALTER" => alter g
  | "DROP" => drop
  | "TRUNCATE" => truncate g
  | "SET" => set g
  | "START" => start
  | "BEGIN" => beginTransaction
  | "COMMIT" | "END" => do
    chain
    return .other .transaction keyword
  | "ROLLBACK" => rollback
  | "SAVEPOINT" => do
    let _ ← ident
    return .other .transaction keyword
  | "RELEASE" => do
    let _ ← accept ["SAVEPOINT"]
    let _ ← ident
    return .other .transaction keyword
  | "GRANT" => grant
  | "REVOKE" => revoke
  | "KILL" => kill
  | "FLUSH" => flush
  | "ANALYZE" => analyze g
  | "CALL" => callStatement g
  | "PREPARE" => prepare g
  | "EXECUTE" | "EXEC" => execute g
  | "DEALLOCATE" => deallocate
  | "RENAME" => rename
  | _ =>
    match other? g keyword with
    | some tail => do
      tail
      return .other .unsupported keyword
    | none => fail

def statement : Reader Statement := fun ts =>
  match ts with
  | [] => .error .unexpected
  | t :: r =>
    if areKeys ["LOCK", "TABLES"] ts then lock (ts.drop 2)
    else if areKeys ["UNLOCK", "TABLES"] ts then
      .ok (.other .administration "UNLOCK", ts.drop 2)
    else if t.isKey "SELECT" || t.isKey "WITH" || t.isKey "VALUES" || t == .symbol "(" then
      (do return Statement.query (← g.query)) ts
    else
      match t with
      | .word _ (some key) => statementAfter g key r
      | _ => .error .unexpected

end QueryGate.Sql.Read

namespace QueryGate.Sql

namespace Grammar

/-- The grammar one level above `g`. -/
def above (g : Grammar) : Grammar :=
  { expr := Read.expr g
    query := Read.query g
    table := Read.table g
    statement := Read.statement g }

/-- The grammar with `n` levels. -/
def levels : Nat → Grammar
  | 0 => bottom
  | n + 1 => above (levels n)

/-- How deep a statement may be nested. -/
def depthLimit : Nat := 50

end Grammar

namespace Statement

/-- Statements with semicolons between them. A statement ends before the word
`END` as well, and what follows that word is not read. -/
def readAll (one : Reader Statement) (afterStatement : Bool) :
    Nat → List Token → Except Fault (List Statement)
  | 0, _ => .ok []
  | _ + 1, [] => .ok []
  | n + 1, t :: ts =>
    if t = .symbol ";" then readAll one false n ts
    else if afterStatement then if t.isKey "END" then .ok [] else .error .unexpected
    else
      match one (t :: ts) with
      | .error f => .error f
      | .ok (s, r) => (readAll one true n r).map (s :: ·)

/-- The statements a list of units is made of. -/
def ofTokens (ts : List Token) : Except Fault (List Statement) :=
  readAll (Grammar.levels Grammar.depthLimit).statement false (2 * ts.length + 1) ts

end Statement

end QueryGate.Sql
