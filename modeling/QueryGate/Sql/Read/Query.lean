import QueryGate.Sql.Read.Write
/-!
# Queries

`SELECT` and what may surround it: set operations, common table expressions,
order and limits.
-/

namespace QueryGate.Sql.Read

open Reader

variable (g : Grammar)

/-! ## SELECT -/

/-- Words that are no label of a column unless `AS` stands before them. -/
def notColumnLabels : List String :=
  ["WITH", "EXPLAIN", "ANALYZE", "SELECT", "WHERE", "GROUP", "SORT", "HAVING", "WINDOW", "ORDER",
   "TOP", "LATERAL", "VIEW", "LIMIT", "OFFSET", "FETCH", "UNION", "EXCEPT", "EXCLUDE",
   "INTERSECT", "MINUS", "CLUSTER", "DISTRIBUTE", "RETURNING", "VALUES", "FROM", "INTO", "END"]

/-- An item of a select list. A lone `FROM` is no column. -/
def item : Reader Expr := do
  match ← starOrExpr g with
  | .star t => return .star t
  | .column [i] =>
    if !i.quoted && Text.lower i.text == "from".toList then fail
    else labelOf (.column [i])
  | e => labelOf e
where
  labelOf (e : Expr) : Reader Expr := do
    match ← label? fun k => !notColumnLabels.contains k with
    | some l => return .labelled e l
    | none => return e

def distinct : Reader (List Expr) := do
  let all ← accept ["ALL"]
  if ← accept ["DISTINCT"] then
    if all then fail
    if ← accept ["ON"] then
      parenthesized do
        if ← atSymbol ")" then return [] else g.exprs
    else return []
  else return []

def top : Reader (List Expr) := do
  if ← accept ["TOP"] then
    let count ←
      if ← atSymbol "(" then do pure [← parenthesized g.anyExpr]
      else do
        unsigned
        pure []
    let _ ← accept ["PERCENT"]
    let _ ← accept ["WITH", "TIES"]
    return count
  else return []

def into : Reader (Option Name) := do
  if ← accept ["INTO"] then
    let _ ← acceptOne ["TEMP", "TEMPORARY"]
    let _ ← accept ["UNLOGGED"]
    let _ ← accept ["TABLE"]
    return some (← name)
  else return none

/-- Reads `LATERAL VIEW` clauses, at most `n`. -/
def views : Nat → Reader (List Expr)
  | 0 => return []
  | n + 1 => do
    if ← accept ["LATERAL", "VIEW"] then
      let _ ← accept ["OUTER"]
      let e ← g.anyExpr
      let _ ← name
      if ← accept ["AS"] then
        let _ ← list ident
      return e :: (← views n)
    else return []

def optionalExprs (keywords : List String) : Reader (List Expr) := do
  if ← accept keywords then g.exprs else return []

/-- What `WITH` may add to a grouping, any number of times. -/
def groupModifiers : Nat → Reader Unit
  | 0 => return ()
  | n + 1 => do
    if ← accept ["WITH"] then
      let _ ← requireOne ["ROLLUP", "CUBE", "TOTALS"]
      groupModifiers n

/-- Several expressions between parentheses, or one. -/
def groupingSet : Reader (List Expr) := do
  if ← acceptSymbol "(" then
    if ← acceptSymbol ")" then return []
    let es ← g.exprs
    requireSymbol ")"
    return es
  else return [← g.anyExpr]

def grouping : Reader (List Expr) := do
  let groups ←
    if ← accept ["GROUP", "BY"] then do
      let es ← if ← accept ["ALL"] then pure [] else g.exprs
      let ts ← rest
      groupModifiers ts.length
      if ← accept ["GROUPING", "SETS"] then
        pure (es ++ (← parenthesized (list (groupingSet g))).flatten)
      else pure es
    else pure []
  let clustered ← optionalExprs g ["CLUSTER", "BY"]
  let distributed ← optionalExprs g ["DISTRIBUTE", "BY"]
  let sorted ← if ← accept ["SORT", "BY"] then sortKeys g else pure []
  return groups ++ clustered ++ distributed ++ sorted.map SortKey.key

def optionalExpr (keyword : String) : Reader (Option Expr) := do
  if ← accept [keyword] then return some (← g.anyExpr) else return none

def namedWindow : Reader (List Expr) := do
  let _ ← ident
  require ["AS"]
  requireSymbol "("
  window g (interval g)

def namedWindows : Reader (List Expr) := do
  if ← accept ["WINDOW"] then return (← list (namedWindow g)).flatten else return []

/-- Named windows and `QUALIFY`, in either order. -/
def windows : Reader (List Expr) := do
  let before ← namedWindows g
  let qualify ← optionalExpr g "QUALIFY"
  let after ← if before.isEmpty && qualify.isSome then namedWindows g else pure []
  return before ++ after ++ qualify.toList

/-- A `SELECT`, after its keyword. -/
def select : Reader Select := do
  let distinctOn ← distinct g
  let count ← top g
  let items ← list (item g)
  let target ← into
  let tables ← if ← accept ["FROM"] then list (table g) else pure []
  let ts ← rest
  let views ← views g ts.length
  let filter ← optionalExpr g "WHERE"
  let groups ← grouping g
  let having ← optionalExpr g "HAVING"
  return ⟨distinctOn ++ count, items, target, tables, views, filter, groups, having, ← windows g⟩

/-! ## Bodies -/

def valuesRow : Reader (List Expr) := do
  let _ ← accept ["ROW"]
  requireSymbol "("
  if ← acceptSymbol ")" then return []
  let es ← g.exprs
  requireSymbol ")"
  return es

/-- A table's name in the place of a query. Three units are read, whether or
not the second is a dot. -/
def tableQuery : Reader Body := fun ts =>
  match ts with
  | .word a ka :: .symbol "." :: .word b kb :: r =>
    .ok (.table [⟨a, ka.isNone⟩, ⟨b, kb.isNone⟩] [], r)
  | _ :: .symbol "." :: _ => .error .unexpected
  | .word a ka :: r => .ok (.table [⟨a, ka.isNone⟩] (r.take 2), r.drop 2)
  | _ => .error .unexpected

/-- A body without set operations. -/
def term : Reader Body := do
  if ← accept ["SELECT"] then return .select (← select g)
  else if ← acceptSymbol "(" then
    let q ← g.query
    requireSymbol ")"
    return .nested q
  else if ← accept ["VALUES"] then return .values (← list (valuesRow g)).flatten
  else if ← accept ["TABLE"] then tableQuery
  else fail

def setOperator? (ops : List (String × SetOperator)) : Reader (Option SetOperator) := do
  match ← acceptOne (ops.map Prod.fst) with
  | some k => return ops.lookup k
  | none => return none

/-- Whether duplicates are kept and how columns are matched. -/
def setQuantifier : Reader Unit := do
  if !(← accept ["DISTINCT", "BY", "NAME"]) then
    if !(← accept ["BY", "NAME"]) then
      if !(← accept ["ALL", "BY", "NAME"]) then
        let _ ← acceptOne ["ALL", "DISTINCT"]

/-- Reads the set operations behind `left`, at most `n` of them. -/
def operations (ops : List (String × SetOperator)) (right : SetOperator → Reader Body) :
    Nat → Body → Reader Body
  | 0, left => return left
  | n + 1, left => do
    match ← setOperator? ops with
    | some op =>
      setQuantifier
      operations ops right n (.operation op left (← right op))
    | none => return left

def intersection : List (String × SetOperator) := [("INTERSECT", .intersect)]

def setOperators : List (String × SetOperator) :=
  [("UNION", .union), ("EXCEPT", .except), ("MINUS", .minus)] ++ intersection

/-- A body whose set operations are intersections only. -/
def intersections : Reader Body := do
  let left ← term g
  let ts ← rest
  operations intersection (fun _ => term g) ts.length left

/-- Intersections bind more tightly than the other set operations. -/
def body : Reader Body := do
  let left ← term g
  let ts ← rest
  operations setOperators (fun op => if op = .intersect then term g else intersections g)
    ts.length left

/-! ## Whole queries -/

def cte : Reader Cte := do
  let n ← ident
  if !(← accept ["AS"]) then
    columnLabels
    require ["AS"]
  let q ← parenthesized g.query
  if ← accept ["FROM"] then
    let _ ← ident
  return ⟨n, q⟩

def offset : Reader Expr := do
  let e ← g.anyExpr
  let _ ← acceptOne ["ROW", "ROWS"]
  return e

def limit : Reader Limit := do
  let before ← if ← accept ["OFFSET"] then do pure (some (← offset g)) else pure none
  let limited ← accept ["LIMIT"]
  let count ←
    if limited then
      if ← accept ["ALL"] then pure none else do pure (some (← g.anyExpr))
    else pure none
  if before.isSome then return ⟨count, before, false⟩
  if let some c := count then
    if ← acceptSymbol "," then return ⟨some (← g.anyExpr), some c, true⟩
  if limited then
    if ← accept ["OFFSET"] then return ⟨count, some (← offset g), false⟩
  return ⟨count, none, false⟩

def fetch : Reader Unit := do
  if ← accept ["FETCH"] then
    let _ ← acceptOne ["FIRST", "NEXT"]
    if (← acceptOne ["ROW", "ROWS"]).isNone then
      let _ ← literal
      let _ ← accept ["PERCENT"]
      let _ ← acceptOne ["ROW", "ROWS"]
    if !(← accept ["ONLY"]) then
      let _ ← accept ["WITH", "TIES"]

/-- Locking clauses, at most `n`. -/
def locks : Nat → Reader Unit
  | 0 => return ()
  | n + 1 => do
    if ← accept ["FOR"] then
      if !(← accept ["BROWSE"]) then
        let _ ← requireOne ["UPDATE", "SHARE"]
        if ← accept ["OF"] then
          let _ ← name
        if !(← accept ["NOWAIT"]) then
          let _ ← accept ["SKIP", "LOCKED"]
        locks n

/-- The statement that writes, if one stands in the place of a body. -/
def writing : Reader (Option Write) := do
  match ← acceptOne ["INSERT", "UPDATE", "DELETE", "MERGE"] with
  | none => return none
  | some "INSERT" => return some (← insert g)
  | some "UPDATE" => return some (← update g)
  | some "DELETE" => return some (← delete g)
  | some _ => return some (← merge g)

def query : Reader Query := do
  let ctes ←
    if ← accept ["WITH"] then do
      let _ ← accept ["RECURSIVE"]
      list (cte g)
    else pure []
  if let some w ← writing g then return ⟨ctes, .write w, [], ⟨none, none, false⟩⟩
  let body ← body g
  let order ← if ← accept ["ORDER", "BY"] then sortKeys g else pure []
  let limit ← limit g
  fetch
  let ts ← rest
  locks ts.length
  return ⟨ctes, body, order, limit⟩

end QueryGate.Sql.Read
