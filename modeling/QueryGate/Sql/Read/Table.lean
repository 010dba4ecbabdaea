import QueryGate.Sql.Read.Expr
/-!
# Tables

What stands in a `FROM` list: tables, subqueries and calls, joined to each other.
-/

namespace QueryGate.Sql.Read

open Reader

variable (g : Grammar)

/-! ## Labels -/

/-- Words that are no label of a table unless `AS` stands before them. -/
def notTableLabels : List String :=
  ["WITH", "EXPLAIN", "ANALYZE", "SELECT", "WHERE", "GROUP", "SORT", "HAVING", "ORDER", "PIVOT",
   "UNPIVOT", "TOP", "LATERAL", "VIEW", "LIMIT", "OFFSET", "FETCH", "UNION", "EXCEPT",
   "INTERSECT", "MINUS", "ON", "JOIN", "INNER", "CROSS", "FULL", "LEFT", "RIGHT", "NATURAL",
   "USING", "CLUSTER", "DISTRIBUTE", "GLOBAL", "ANTI", "SEMI", "RETURNING", "ASOF",
   "MATCH_CONDITION", "OUTER", "SET", "QUALIFY", "WINDOW", "END", "FOR", "PARTITION", "PREWHERE",
   "SETTINGS", "FORMAT", "START", "CONNECT", "MATCH_RECOGNIZE", "SAMPLE", "TABLESAMPLE", "FROM",
   "OPEN", "USE", "IGNORE", "FORCE", "STRAIGHT_JOIN"]

/-- Column names behind a label, each with a type or without one. -/
def columnLabels : Reader Unit := do
  if ← acceptSymbol "(" then
    let _ ← list do
      let _ ← ident
      let _ ← attempt dataType
    requireSymbol ")"

def tableLabel : Reader (Option Ident) := do
  match ← label? fun k => !notTableLabels.contains k with
  | some l =>
    columnLabels
    return some l
  | none => return none

/-! ## Hints -/

/-- One hint on which indexes to use. -/
def indexHint : Reader Unit := do
  let _ ← requireOne ["USE", "IGNORE", "FORCE"]
  let _ ← requireOne ["INDEX", "KEY"]
  if ← accept ["FOR"] then
    if !(← accept ["JOIN"]) then
      if !(← accept ["ORDER", "BY"]) then require ["GROUP", "BY"]
  parenthesized do
    if !(← atSymbol ")") then
      let _ ← list ident

/-- Hints one after the other, up to the first word that begins none. -/
def indexHints : Nat → Reader Unit
  | 0 => return ()
  | n + 1 => fun ts =>
    if ts.head?.any fun t => t.isKey "USE" || t.isKey "IGNORE" || t.isKey "FORCE" then
      (do
        indexHint
        indexHints n) ts
    else .ok ((), ts)

/-- Expressions between parentheses after `WITH`; without parentheses the word
stays. -/
def withHints : Reader (List Expr) := fun ts =>
  match ts with
  | t :: .symbol "(" :: r =>
    if t.isKey "WITH" then
      (do
        let es ← g.exprs
        requireSymbol ")"
        return es) r
    else .ok ([], ts)
  | _ => .ok ([], ts)

/-! ## Columns of JSON_TABLE -/

/-- What to do about a missing or a faulty value, any number of times. -/
def jsonFallbacks : Nat → Reader Unit
  | 0 => return ()
  | n + 1 => do
    let found ←
      if (← acceptOne ["NULL", "ERROR"]).isSome then pure true
      else if ← accept ["DEFAULT"] then do
        let _ ← literal
        pure true
      else pure false
    if found then
      require ["ON"]
      let _ ← requireOne ["EMPTY", "ERROR"]
      jsonFallbacks n

def jsonColumn : Nat → Reader Unit
  | 0 => fail
  | n + 1 => do
    if ← accept ["NESTED"] then
      let _ ← accept ["PATH"]
      let _ ← literal
      require ["COLUMNS"]
      parenthesized do
        let _ ← list (jsonColumn n)
    else
      let _ ← ident
      if ← accept ["FOR"] then require ["ORDINALITY"]
      else
        dataType
        let _ ← accept ["EXISTS"]
        require ["PATH"]
        let _ ← literal
        let ts ← rest
        jsonFallbacks ts.length

def jsonTable : Reader Table := do
  let e ← parenthesized do
    let e ← g.anyExpr
    requireSymbol ","
    let _ ← literal
    require ["COLUMNS"]
    parenthesized do
      let ts ← rest
      let _ ← list (jsonColumn ts.length)
    return e
  return .computed e (← tableLabel)

/-! ## One table -/

/-- Arguments of a table, after the opening parenthesis. -/
def tableArguments : Reader (List Expr) := do
  if ← acceptSymbol ")" then return []
  let args ← list (argument g)
  requireSymbol ")"
  return args

/-- A subquery and its label, after the opening parenthesis. -/
def derived : Reader Table := do
  let q ← g.query
  requireSymbol ")"
  return .derived q (← tableLabel)

/-- Whether a join may stand alone between parentheses. -/
def isJoin : Table → Bool
  | .join .. | .nested .. => true
  | _ => false

/-- A subquery or a join, after the opening parenthesis. -/
def tableParenthesis : Reader Table := do
  match ← attempt (derived g) with
  | some t => return t
  | none =>
    let t ← g.table
    if isJoin t then
      requireSymbol ")"
      return .nested t (← tableLabel)
    else fail

def namedTable : Reader Table := do
  let n ← name
  if ← accept ["PARTITION"] then
    parenthesized do
      let _ ← list ident
  let args ← if ← acceptSymbol "(" then do pure (some (← tableArguments g)) else pure none
  let _ ← accept ["WITH", "ORDINALITY"]
  let l ← tableLabel
  let ts ← rest
  let _ ← attempt (indexHints ts.length)
  return .named n args l (← withHints g)

def factor : Reader Table := fun ts =>
  match ts with
  | t :: .symbol "(" :: r =>
    if t.isKey "JSON_TABLE" then jsonTable g (ts.drop 1)
    else if t.isKey "TABLE" then
      (do
        let e ← g.anyExpr
        requireSymbol ")"
        return Table.computed e (← tableLabel)) r
    else if t.isKey "LATERAL" then derived g r
    else if t = .symbol "(" then tableParenthesis g (ts.drop 1)
    else namedTable g ts
  | t :: r =>
    if t.isKey "TABLE" then .error .unexpected
    else if t.isKey "LATERAL" then
      (do
        let n ← name
        requireSymbol "("
        let args ← tableArguments g
        return Table.function n args (← tableLabel)) r
    else if t = .symbol "(" then tableParenthesis g r
    else namedTable g ts
  | [] => .error .unexpected

/-! ## Joins -/

def joinCondition (unconditional : Bool) : Reader (Option Expr) := do
  if unconditional then return none
  else if ← accept ["ON"] then return some (← g.anyExpr)
  else if ← accept ["USING"] then
    let _ ← parenthesizedNames
    return none
  else return none

/-- The words that begin a join, after `NATURAL`; none if there is no join. -/
def joinWords (natural : Bool) : Reader Bool := do
  match ← acceptOne ["INNER", "JOIN", "LEFT", "RIGHT", "ANTI", "SEMI", "FULL", "OUTER",
      "STRAIGHT_JOIN"] with
  | some "JOIN" | some "STRAIGHT_JOIN" => return true
  | some "INNER" | some "ANTI" | some "SEMI" =>
    require ["JOIN"]
    return true
  | some "FULL" =>
    let _ ← accept ["OUTER"]
    require ["JOIN"]
    return true
  | some "OUTER" => fail
  | some _ =>
    let _ ← acceptOne ["OUTER", "SEMI", "ANTI"]
    require ["JOIN"]
    return true
  | none => if natural then fail else return false

/-- The table that `left` is joined to and how; none if no join follows. A
`GLOBAL` before it is passed over. -/
def join? (left : Table) : Reader (Option Table) := do
  let _ ← accept ["GLOBAL"]
  if ← accept ["CROSS"] then
    let unconditional := (← requireOne ["JOIN", "APPLY"]) == "APPLY"
    let right ← factor g
    return some (.join left right (← joinCondition g unconditional))
  else if ← accept ["OUTER"] then
    require ["APPLY"]
    return some (.join left (← factor g) none)
  else if ← accept ["ASOF"] then
    require ["JOIN"]
    let right ← factor g
    require ["MATCH_CONDITION"]
    let nearest ← parenthesized g.anyExpr
    match ← joinCondition g false with
    | some condition => return some (.join left right (some (.tuple [nearest, condition])))
    | none => return some (.join left right (some nearest))
  else
    let natural ← accept ["NATURAL"]
    if ← joinWords natural then
      let right ← factor g
      return some (.join left right (← joinCondition g natural))
    else return none

/-- Reads the joins behind `left`, at most `n` of them. -/
def joins : Nat → Table → Reader Table
  | 0, left => return left
  | n + 1, left => do
    match ← join? g left with
    | some t => joins n t
    | none => return left

def table : Reader Table := do
  let left ← factor g
  let ts ← rest
  joins g ts.length left

end QueryGate.Sql.Read
