import QueryGate.Sql.Read.Table
/-!
# Statements that write

`INSERT`, `REPLACE`, `UPDATE`, `DELETE` and `MERGE`. They are read to know them
for what they are; of each its tables, queries and expressions are kept.
-/

namespace QueryGate.Sql.Read

open Reader

variable (g : Grammar)

def columnNames : Reader Unit := do
  if ← acceptSymbol "(" then
    if !(← acceptSymbol ")") then
      let _ ← list ident
      requireSymbol ")"

def assignment : Reader Expr := do
  if ← acceptSymbol "(" then
    let _ ← list name
    requireSymbol ")"
  else
    let _ ← name
  requireSymbol "="
  g.anyExpr

def assignments : Reader (List Expr) := list (assignment g)

/-- Reads the keywords and what may follow them, if they come next. -/
def optionalPart (keywords : List String) (part : Reader (List Expr)) : Reader (List Expr) := do
  if ← accept keywords then part else return []

def oneExpr : Reader (List Expr) := do return [← g.anyExpr]

def optionalFilter : Reader (List Expr) := optionalPart ["WHERE"] (oneExpr g)

/-- What a statement that writes gives back, each with a label or without one. -/
def returned : Reader Expr := do
  let e ← starOrExpr g
  let _ ← label? fun _ => true
  return e

def returning : Reader (List Expr) := optionalPart ["RETURNING"] (list (returned g))

def optionalOrder : Reader (List Expr) :=
  optionalPart ["ORDER", "BY"] do return (← sortKeys g).map SortKey.key

def optionalCount : Reader (List Expr) := optionalPart ["LIMIT"] (oneExpr g)

/-- A table by its name alone. -/
def plainTable (n : Name) : Table := .named n none none []

/-- Reads the keyword and the tables behind it, if it comes next. -/
def optionalTables (keyword : String) : Reader (List Table) := do
  if ← accept [keyword] then list (table g) else return []

/-- Whether a parenthesized subquery comes next. -/
def atParenthesizedQuery : Reader Bool := fun ts =>
  match ts with
  | .symbol "(" :: t :: _ => .ok (t.isKey "SELECT" || t.isKey "WITH", ts)
  | _ => .ok (false, ts)

/-- What to do with a row that is there already, before the table. -/
def conflictWord : Reader Unit := do
  if ← accept ["OR"] then
    let _ ← requireOne ["REPLACE", "ROLLBACK", "ABORT", "FAIL", "IGNORE"]
  else
    let _ ← accept ["REPLACE"]

/-- What to do with a row that is there already, after the rows. -/
def conflictClause : Reader (List Expr) := do
  if ← accept ["ON", "CONFLICT"] then
    if ← accept ["ON", "CONSTRAINT"] then
      let _ ← name
    else columnNames
    require ["DO"]
    if ← accept ["NOTHING"] then return []
    require ["UPDATE", "SET"]
    let values ← assignments g
    return values ++ (← optionalFilter g)
  else if ← accept ["ON"] then
    require ["DUPLICATE", "KEY", "UPDATE"]
    assignments g
  else return []

/-- The partitions rows are put into. -/
def insertPartitions : Reader (List Expr) :=
  optionalPart ["PARTITION"] (parenthesized g.exprs)

/-- The rows of an `INSERT`, after its table: the partitions they go into, the
values they are assigned or the query they come from. -/
def insertedRows : Reader Write := do
  if ← accept ["DEFAULT", "VALUES"] then return ⟨[], [], []⟩
  let parts ←
    if ← atParenthesizedQuery then pure []
    else do
      columnNames
      insertPartitions g
  if ← accept ["SET"] then return ⟨[], [], parts ++ (← assignments g)⟩
  else return ⟨[], [← g.query], parts⟩

/-- An `INSERT` or `REPLACE`, after its keyword. -/
def insert : Reader Write := do
  conflictWord
  let _ ← acceptOne ["LOW_PRIORITY", "DELAYED", "HIGH_PRIORITY"]
  let _ ← accept ["IGNORE"]
  let _ ← accept ["OVERWRITE"]
  let _ ← accept ["INTO"]
  let _ ← accept ["TABLE"]
  let target ← name
  let rows ← insertedRows g
  if ← accept ["AS"] then
    let _ ← name
    columnNames
  let conflict ← conflictClause g
  let results ← returning g
  return ⟨[plainTable target], rows.queries, rows.parts ++ conflict ++ results⟩

/-- An `UPDATE`, after its keyword. -/
def update : Reader Write := do
  conflictWord
  let target ← table g
  let early ← optionalTables g "FROM"
  require ["SET"]
  let values ← assignments g
  let late ← if early.isEmpty then optionalTables g "FROM" else pure []
  let filter ← optionalFilter g
  let results ← returning g
  let count ← optionalCount g
  return ⟨target :: early ++ late, [], values ++ filter ++ results ++ count⟩

/-- A `DELETE`, after its keyword. -/
def delete : Reader Write := do
  let targets ←
    if ← accept ["FROM"] then pure []
    else do
      let names ← list name
      require ["FROM"]
      pure names
  let tables ← list (table g)
  let used ← optionalTables g "USING"
  let filter ← optionalFilter g
  let results ← returning g
  let order ← optionalOrder g
  let count ← optionalCount g
  return ⟨targets.map plainTable ++ tables ++ used, [], filter ++ results ++ order ++ count⟩

def mergeValues : Reader (List Expr) := do
  require ["VALUES"]
  return (← list (parenthesized g.exprs)).flatten

def mergeAction : Reader (List Expr) := do
  if ← accept ["UPDATE", "SET"] then assignments g
  else if ← accept ["DELETE"] then return []
  else
    require ["INSERT"]
    columnNames
    if ← accept ["ROW"] then return [] else mergeValues g

def mergeClauses : Nat → Reader (List Expr)
  | 0 => return []
  | n + 1 => do
    if ← accept ["WHEN"] then
      let _ ← accept ["NOT"]
      require ["MATCHED"]
      if ← accept ["BY"] then
        let _ ← requireOne ["SOURCE", "TARGET"]
      let condition ← optionalPart ["AND"] (oneExpr g)
      require ["THEN"]
      let action ← mergeAction g
      return condition ++ action ++ (← mergeClauses n)
    else return []

/-- A `MERGE`, after its keyword. -/
def merge : Reader Write := do
  let _ ← accept ["INTO"]
  let target ← factor g
  require ["USING"]
  let source ← factor g
  require ["ON"]
  let condition ← g.anyExpr
  let ts ← rest
  return ⟨[target, source], [], condition :: (← mergeClauses g ts.length)⟩

end QueryGate.Sql.Read
