import QueryGate.Sql.Read.DataType
/-!
# Expressions

Operators by binding strength over operands. An operand is a constant, a name, a
call, or one of the spellings that a keyword introduces; a keyword whose
spelling cannot be read is a plain name where it may be one.
-/

namespace QueryGate.Sql.Read

open Reader

variable (g : Grammar)

/-! ## Binding strengths -/

def strengthOfOr : Nat := 5
def strengthOfAnd : Nat := 10
def strengthOfNot : Nat := 15
def strengthOfIs : Nat := 17
def strengthOfLike : Nat := 19
def strengthOfBetween : Nat := 20
def strengthOfPlus : Nat := 30
def strengthOfTimes : Nat := 40
def strengthOfPeriod : Nat := 100

def symbolStrengths : List (String × Nat) :=
  [(".", strengthOfPeriod), ("::", 50), ("!", 50), ("[", 50), ("^@", 50)] ++
  ["*", "/", "%", "||"].map (·, strengthOfTimes) ++
  ["+", "-"].map (·, strengthOfPlus) ++
  [("&", 23), ("^", 22), ("<<", 22), (">>", 22), ("|", 21), ("&&", 21)] ++
  [":=", "=", "<", "<=", "!=", ">", ">=", "==", "~", "~*", "!~", "!~*", "~~", "~~*", "!~~",
   "!~~*", "<=>"].map (·, 20) ++
  ["->", "->>", "@>", "<@", "@?", "@@"].map (·, 16)

def wordStrengths : List (String × Nat) :=
  [("OR", strengthOfOr), ("AND", strengthOfAnd), ("XOR", 24), ("IS", strengthOfIs),
   ("DIV", strengthOfTimes)] ++
  ["IN", "BETWEEN", "OVERLAPS", "OPERATOR"].map (·, strengthOfBetween) ++
  ["LIKE", "ILIKE", "RLIKE", "REGEXP", "MATCH", "SIMILAR", "MEMBER"].map (·, strengthOfLike)

/-- What `NOT` binds like before one of these words. -/
def negatedStrengths : List (String × Nat) :=
  [("IN", strengthOfBetween), ("BETWEEN", strengthOfBetween), ("NULL", strengthOfIs)] ++
  ["LIKE", "ILIKE", "RLIKE", "REGEXP", "MATCH", "SIMILAR", "MEMBER"].map (·, strengthOfLike)

def keyStrength (table : List (String × Nat)) : Option Token → Nat
  | some (.word _ (some key)) => (table.lookup key).getD 0
  | _ => 0

/-- How tightly the operator at the front binds; 0 if there is none. -/
def strength : List Token → Nat
  | .symbol s :: _ => (symbolStrengths.lookup s).getD 0
  | t :: r =>
    if t.isKey "NOT" then keyStrength negatedStrengths r.head?
    else if t.isKey "AT" then if areKeys ["TIME", "ZONE"] r then 41 else 0
    else keyStrength wordStrengths (some t)
  | [] => 0

/-! ## Lists and clauses -/

def sortKey : Reader SortKey := do
  let key ← g.anyExpr
  let direction ← acceptOne ["ASC", "DESC"]
  if !(← accept ["NULLS", "FIRST"]) then
    let _ ← accept ["NULLS", "LAST"]
  return ⟨key, direction == some "DESC"⟩

def sortKeys : Reader (List SortKey) := list (sortKey g)

def parenthesizedNames : Reader (List Name) := parenthesized (list name)

/-- Whether a subquery comes next. -/
def atSubquery : Reader Bool := do
  return (← peek).any fun t => t.isKey "SELECT" || t.isKey "WITH"

/-- One end of a window's frame. -/
def frameBound (interval : Reader Expr) : Reader (List Expr) := do
  if ← accept ["CURRENT", "ROW"] then return []
  let bound ←
    if ← accept ["UNBOUNDED"] then pure []
    else
      match ← peek with
      | some (.text .single _) => do pure [← interval]
      | _ => do pure [← g.anyExpr]
  let _ ← requireOne ["PRECEDING", "FOLLOWING"]
  return bound

/-- A window's expressions, after its opening parenthesis. -/
def window (interval : Reader Expr) : Reader (List Expr) := do
  if (← peek).any Token.isPlain then
    let _ ← next
  let parts ← if ← accept ["PARTITION", "BY"] then g.exprs else pure []
  let order ← if ← accept ["ORDER", "BY"] then sortKeys g else pure []
  let frame ←
    if ← acceptSymbol ")" then pure []
    else do
      let _ ← requireOne ["ROWS", "RANGE", "GROUPS"]
      let bounds ←
        if ← accept ["BETWEEN"] then do
          let low ← frameBound g interval
          require ["AND"]
          pure (low ++ (← frameBound g interval))
        else frameBound g interval
      requireSymbol ")"
      pure bounds
  return parts ++ order.map SortKey.key ++ frame

/-! ## Units of time -/

def timeUnits : List String :=
  ["YEAR", "YEARS", "MONTH", "MONTHS", "WEEK", "WEEKS", "DAY", "DAYS", "HOUR", "HOURS", "MINUTE",
   "MINUTES", "SECOND", "SECONDS", "CENTURY", "DECADE", "DOW", "DOY", "EPOCH", "ISODOW",
   "ISOYEAR", "JULIAN", "MICROSECOND", "MICROSECONDS", "MILLENIUM", "MILLENNIUM", "MILLISECOND",
   "MILLISECONDS", "NANOSECOND", "NANOSECONDS", "QUARTER", "TIMEZONE", "TIMEZONE_HOUR",
   "TIMEZONE_MINUTE"]

/-- Parts of a date that are no unit of an interval. -/
def dateFields : List String :=
  ["DAYOFWEEK", "DAYOFYEAR", "DATE", "DATETIME", "TIME", "ISOWEEK", "TIMEZONE_ABBR",
   "TIMEZONE_REGION"]

def timeField : Reader String := requireOne (timeUnits ++ dateFields)

/-- An interval after its keyword. The unit is required. -/
def interval : Reader Expr := do
  let value ← g.anyExpr
  let unit ← requireOne timeUnits
  if unit == "SECOND" then optionalPrecision
  else
    optionalLength
    if ← accept ["TO"] then
      let last ← timeField
      if last == "SECOND" then optionalLength
  return .form "INTERVAL" [value]

/-! ## Calls -/

/-- A unit as the name of a table before a star: a word or a text in single
quotes. -/
def qualifier? : Token → Option Ident
  | .word text key => some ⟨text, key.isNone⟩
  | .text .single content => some ⟨content, true⟩
  | _ => none

/-- The table of a star, from the dot behind its first part on; none if no star
follows. -/
def starTail : Nat → Name → Reader (Option Name)
  | 0, _ => fail
  | n + 1, parts => do
    if ← acceptSymbol "." then
      if ← acceptSymbol "*" then return some parts
      match ← next with
      | .placeholder digits => starTail n (parts ++ [⟨'?' :: digits, false⟩])
      | t =>
        match qualifier? t with
        | some i => starTail n (parts ++ [i])
        | none => fail
    else return none

/-- A star, `*` or `t.*`, if that is what comes next. A name with a dot that is
followed by neither a name nor a star is a fault. -/
def star? : Reader (Option Expr) := fun ts =>
  match ts with
  | .symbol "*" :: r => .ok (some (.star []), r)
  | t :: .symbol "." :: _ =>
    match qualifier? t with
    | none => .ok (none, ts)
    | some i =>
      match starTail ts.length [i] (ts.drop 1) with
      | .ok (some table, r) => .ok (some (.star table), r)
      | .ok (none, _) => .ok (none, ts)
      | .error f => .error f
  | _ => .ok (none, ts)

/-- A star, `*` or `t.*`, or an expression. -/
def starOrExpr : Reader Expr := do
  match ← star? with
  | some e => return e
  | none => g.anyExpr

/-- An argument with a name. -/
def namedArgument : Reader Expr := do
  let _ ← ident
  if !(← accept ["VALUE"]) then requireSymbol "=>"
  starOrExpr g

def argument : Reader Expr := do
  match ← attempt (namedArgument g) with
  | some e => return e
  | none => starOrExpr g

def optionalNulls : Reader Unit := do
  if (← acceptOne ["RESPECT", "IGNORE"]).isSome then require ["NULLS"]

/-- What to do with missing values, and the type to return. -/
def jsonClauses : Reader Unit := do
  if !(← accept ["ABSENT", "ON", "NULL"]) then
    let _ ← accept ["NULL", "ON", "NULL"]
  if ← accept ["RETURNING"] then dataType

/-- What to do with a list that is too long. -/
def overflowClause : Reader (List Expr) := do
  if !(← accept ["ON", "OVERFLOW"]) then return []
  if ← accept ["ERROR"] then return []
  require ["TRUNCATE"]
  let filler ←
    match ← peek with
    | some (.word ..) => pure []
    | some (.text .single _) | some (.text .national _) | some (.text .hex _) => do
      pure [← g.anyExpr]
    | _ => fail
  let _ ← requireOne ["WITH", "WITHOUT"]
  require ["COUNT"]
  return filler

/-- Arguments and their clauses up to the closing parenthesis. -/
def arguments : Reader (List Expr) := do
  jsonClauses
  if ← acceptSymbol ")" then return []
  let all ← accept ["ALL"]
  let distinct ← accept ["DISTINCT"]
  if all && distinct then fail
  let args ← list (argument g)
  let order ← if ← accept ["ORDER", "BY"] then sortKeys g else pure []
  let limit ← if ← accept ["LIMIT"] then do pure [← g.anyExpr] else pure []
  if ← accept ["SEPARATOR"] then
    let _ ← literal
  let filler ← overflowClause g
  jsonClauses
  requireSymbol ")"
  return args ++ order.map SortKey.key ++ limit ++ filler

/-- The clauses behind a call. -/
def callTail : Reader (List Expr) := do
  let within ←
    if ← accept ["WITHIN", "GROUP"] then
      parenthesized do
        require ["ORDER", "BY"]
        sortKeys g
    else pure []
  optionalNulls
  let frame ←
    if ← accept ["OVER"] then
      if ← acceptSymbol "(" then window g (interval g)
      else do
        let _ ← ident
        pure []
    else pure []
  return frame ++ within.map SortKey.key

/-- A call of `function`, from its opening parenthesis on. -/
def call (function : Name) : Reader Expr := do
  requireSymbol "("
  let args ← arguments g
  return .call function (args ++ (← callTail g))

/-! ## Keyword spellings -/

def whens : Nat → Reader (List Expr)
  | 0 => fail
  | n + 1 => do
    let condition ← g.anyExpr
    require ["THEN"]
    let result ← g.anyExpr
    let more ← if ← accept ["WHEN"] then whens n else pure []
    return condition :: result :: more

def cases : Reader Expr := do
  let operand ←
    if ← accept ["WHEN"] then pure []
    else do
      let e ← g.anyExpr
      require ["WHEN"]
      pure [e]
  let ts ← rest
  let parts ← whens g ts.length
  let otherwise ← if ← accept ["ELSE"] then do pure [← g.anyExpr] else pure []
  require ["END"]
  return .cases (operand ++ parts ++ otherwise)

def convert : Reader Expr := parenthesized do
  let e ← g.anyExpr
  if ← accept ["USING"] then
    let _ ← name
  else
    requireSymbol ","
    dataType
    if ← accept ["CHARACTER", "SET"] then
      let _ ← name
  return .form "CONVERT" [e]

def cast (keyword : String) : Reader Expr := parenthesized do
  let e ← g.anyExpr
  require ["AS"]
  dataType
  let _ ← accept ["ARRAY"]
  if ← accept ["FORMAT"] then
    let _ ← literal
    if ← accept ["AT", "TIME", "ZONE"] then
      let _ ← literal
  return .form keyword [e]

def exists? (negated : Bool) : Reader Expr :=
  parenthesized do return .exists negated (← g.query)

def extract : Reader Expr := parenthesized do
  let _ ← timeField
  require ["FROM"]
  return .form "EXTRACT" [← g.anyExpr]

/-- What stands behind `CEIL` and `FLOOR`, which may name a unit of time or a scale. -/
def round (keyword : String) : Reader Expr := parenthesized do
  let e ← g.anyExpr
  if ← accept ["TO"] then
    let _ ← timeField
  else if ← acceptSymbol "," then
    let .number _ ← next | fail
  return .form keyword [e]

def position : Reader Expr := parenthesized do
  let part ← g.expr strengthOfBetween
  require ["IN"]
  return .form "POSITION" [part, ← g.anyExpr]

def substring : Reader Expr := parenthesized do
  let e ← g.anyExpr
  let comma ← acceptSymbol ","
  let start ←
    if comma then do pure [← g.anyExpr]
    else if ← accept ["FROM"] then do pure [← g.anyExpr]
    else pure []
  let long ← accept ["FOR"]
  let count ←
    if long then do pure [← g.anyExpr]
    else if ← acceptSymbol "," then do pure [← g.anyExpr]
    else pure []
  return .form "SUBSTRING" (e :: start ++ count)

def overlay : Reader Expr := parenthesized do
  let e ← g.anyExpr
  require ["PLACING"]
  let what ← g.anyExpr
  require ["FROM"]
  let start ← g.anyExpr
  let count ← if ← accept ["FOR"] then do pure [← g.anyExpr] else pure []
  return .form "OVERLAY" (e :: what :: start :: count)

def trimmed : Reader Expr := parenthesized do
  let _ ← acceptOne ["BOTH", "LEADING", "TRAILING"]
  let e ← g.anyExpr
  if ← accept ["FROM"] then return .form "TRIM" [← g.anyExpr, e]
  return .form "TRIM" [e]

def matchAgainst : Reader Expr := do
  let _ ← parenthesizedNames
  require ["AGAINST"]
  parenthesized do
    let value ← literal
    if ← accept ["IN", "NATURAL", "LANGUAGE", "MODE"] then
      let _ ← accept ["WITH", "QUERY", "EXPANSION"]
    else if !(← accept ["IN", "BOOLEAN", "MODE"]) then
      let _ ← accept ["WITH", "QUERY", "EXPANSION"]
    return .form "MATCH" [value]

def negation : Reader Expr := do
  if ← accept ["EXISTS"] then exists? g true
  else return .unary "NOT" (← g.expr strengthOfNot)

def arrayItems : Reader Expr := do
  if ← acceptSymbol "]" then return .array []
  let items ← g.exprs
  requireSymbol "]"
  return .array items

/-- The spelling that a keyword introduces, after the keyword `w`; `none` if it
introduces none. -/
def keywordExpr (w : Ident) (key : String) : Reader (Option Expr) := do
  match key with
  | "TRUE" | "FALSE" | "NULL" => return some (.literal [.word w.text (some key)])
  | "CURRENT_TIMESTAMP" | "CURRENT_TIME" | "CURRENT_DATE" | "LOCALTIME" | "LOCALTIMESTAMP" =>
    if ← acceptSymbol "(" then return some (.call [w] (← arguments g))
    else return some (.call [w] [])
  | "CASE" => return some (← cases g)
  | "CONVERT" => return some (← convert g)
  | "CAST" | "TRY_CAST" | "SAFE_CAST" => return some (← cast g key)
  | "EXISTS" => return some (← exists? g false)
  | "EXTRACT" => return some (← extract g)
  | "CEIL" | "FLOOR" => return some (← round g key)
  | "POSITION" =>
    if ← atSymbol "(" then
      match ← attempt (position g) with
      | some e => return some e
      | none => return some (← call g [w])
    else return none
  | "SUBSTR" | "SUBSTRING" => return some (← substring g)
  | "OVERLAY" => return some (← overlay g)
  | "TRIM" => return some (← trimmed g)
  | "INTERVAL" => return some (← interval g)
  | "ARRAY" =>
    if ← acceptSymbol "[" then return some (← arrayItems g)
    else if ← acceptSymbol "(" then
      let q ← g.query
      requireSymbol ")"
      return some (.call [w] [.subquery q])
    else return none
  | "NOT" => return some (← negation g)
  | "MATCH" => return some (← matchAgainst)
  | _ => return none

/-- A word as a name: of a column, of a function that is called, or of the
character set of a text. -/
def plainWord (w : Ident) : Reader Expr := fun ts =>
  match ts with
  | .symbol "(" :: _ => call g [w] ts
  | .text form content :: r =>
    if w.text.head? = some '_' ∧ (form = .single ∨ form = .double ∨ form = .hex) then
      .ok (.form "_" [.literal [.text form content]], r)
    else .ok (.column [w], ts)
  | _ => .ok (.column [w], ts)

/-- Keywords that never stand for a name in an expression. -/
def reservedForNames : List String := ["EXISTS", "INTERVAL", "STRUCT", "TRIM"]

/-- Adds `COLLATE` and its name, if they come next. -/
def collated (e : Expr) : Reader Expr := do
  if ← accept ["COLLATE"] then
    let _ ← name
    return .form "COLLATE" [e]
  else return e

/-- An expression that begins with a word. -/
def wordExpr (w : Ident) (key : Option String) : Reader Expr := fun ts =>
  let special := match key with
    | some k => keywordExpr g w k ts
    | none => .ok (none, ts)
  match special with
  | .ok (some e, r) => collated e r
  | .ok (none, _) => (plainWord g w >>= collated) ts
  | .error f =>
    if key.any reservedForNames.contains then .error f
    else
      match plainWord g w ts with
      | .ok result => .ok result
      | .error _ => .error f

/-- A type and a constant of it. -/
def typedLiteral : Reader Expr := do
  let type ← builtinType
  if type == "INTERVAL" then interval g
  else return .form type [← literal]

/-! ## Operands -/

/-- What stands between parentheses, after the opening one. -/
def parenthesis : Reader Expr := do
  let e ←
    if ← atSubquery then do pure (Expr.subquery (← g.query))
    else do
      match ← g.exprs with
      | [e] => pure (Expr.nested e)
      | es => pure (Expr.tuple es)
  requireSymbol ")"
  return e

/-- What stands between braces, after the opening one: a function call or a
constant of a type. -/
def braced : Reader Expr := do
  let e ←
    if ← accept ["FN"] then do
      let function ← name
      requireSymbol "("
      let args ← arguments g
      pure (.call function (args ++ (← callTail g)))
    else do
      let .word text (some _) ← next | fail
      if !(["d", "t", "ts"].contains (String.ofList text)) then fail
      pure (.form "DATE" [← literal])
  requireSymbol "\x7d"
  return e

def symbolExpr (s : String) : Reader Expr := do
  match s with
  | "-" | "+" => return .unary s (← g.expr strengthOfTimes)
  | "~" => return .unary s (← g.expr strengthOfPlus)
  | "(" => parenthesis g
  | "[" => arrayItems g
  | "\x7b" => braced g
  | _ => fail

def operand : Reader Expr := do
  match ← attempt (typedLiteral g) with
  | some e => return e
  | none =>
    fun ts =>
      match ts with
      | [] => .error .unexpected
      | .word text key :: r => wordExpr g ⟨text, key.isNone⟩ key r
      | .symbol s :: r =>
        if s = ":" ∨ s = "@" then (literal >>= collated) ts
        else (symbolExpr g s >>= collated) r
      | _ => (literal >>= collated) ts

/-! ## Fields and elements -/

/-- A value's field: a text, what may follow a dot, or any name. -/
def field : Reader (List Expr) := fun ts =>
  match ts with
  | .text .single content :: r => .ok ([.column [⟨content, true⟩]], r)
  | _ =>
    match g.expr strengthOfPeriod ts with
    | .error .tooDeep => .error .tooDeep
    | .ok (.access root steps, r) => .ok (root :: steps, r)
    | .ok (.column parts, r) => .ok (parts.map fun p => .column [p], r)
    | .ok (.literal units, r) => .ok ([.literal units], r)
    | .ok (.call f parts, r) => .ok ([.call f parts], r)
    | _ =>
      match ident ts with
      | .ok (i, r) => .ok ([.column [i]], r)
      | .error f => .error f

/-- The rest of a range, after its first colon: an upper bound and a step. -/
def rangeTail : Reader (List Expr) := do
  if ← acceptSymbol "]" then return []
  let high ← g.anyExpr
  if ← acceptSymbol "]" then return [high]
  if !(← acceptLoose ":") then fail
  if ← acceptSymbol "]" then return [high]
  let step ← g.anyExpr
  requireSymbol "]"
  return [high, step]

/-- An element, after the opening bracket: an index or a range. -/
def element : Reader (List Expr) := do
  if ← acceptLoose ":" then rangeTail g
  else
    let low ← g.anyExpr
    if ← acceptSymbol "]" then return [low]
    if !(← acceptLoose ":") then fail
    return low :: (← rangeTail g)

def steps : Nat → Reader (List Expr)
  | 0 => return []
  | n + 1 => fun ts =>
    match ts with
    | .symbol "." :: .symbol "*" :: _ => .ok ([], ts)
    | .symbol "." :: r => (do return (← field g) ++ (← steps n)) r
    | .symbol "[" :: r => (do return (← element g) ++ (← steps n)) r
    | _ => .ok ([], ts)

/-- The parts of a name that names alone make up. -/
def nameOf? : List Expr → Option Name
  | [] => some []
  | .column parts :: es => (nameOf? es).map (parts ++ ·)
  | _ => none

/-- Names in a row are one name, and a call behind them is a call of that name. -/
def joinSteps (root : Expr) (steps : List Expr) : Expr :=
  match steps.getLast? with
  | none => root
  | some last =>
    match nameOf? (root :: steps), nameOf? (root :: steps.dropLast), last with
    | some name, _, _ => .column name
    | none, some qualifier, .call function parts => .call (qualifier ++ function) parts
    | _, _, _ => .access root steps

/-! ## Operators -/

def isProperties : List (List String) :=
  [["NULL"], ["NOT", "NULL"], ["TRUE"], ["NOT", "TRUE"], ["FALSE"], ["NOT", "FALSE"], ["UNKNOWN"],
   ["NOT", "UNKNOWN"]]

/-- Whether a text is `NORMALIZED`, in some form. -/
def normalized : Reader String := do
  let _ ← accept ["NOT"]
  let _ ← acceptOne ["NFC", "NFD", "NFKC", "NFKD"]
  require ["NORMALIZED"]
  return "NORMALIZED"

def isTest (e : Expr) : Reader Expr := fun ts =>
  match isProperties.find? (areKeys · ts) with
  | some ks => .ok (.test e (" ".intercalate ks), ts.drop ks.length)
  | none =>
    (do
      if ← accept ["DISTINCT", "FROM"] then return Expr.binary "IS DISTINCT FROM" e (← g.anyExpr)
      else if ← accept ["NOT", "DISTINCT", "FROM"] then
        return Expr.binary "IS NOT DISTINCT FROM" e (← g.anyExpr)
      else return Expr.test e (← normalized)) ts

def membership (e : Expr) (negated : Bool) : Reader Expr := do
  if ← accept ["UNNEST"] then
    return .binary "IN UNNEST" e (← parenthesized g.anyExpr)
  requireSymbol "("
  let result ←
    match ← attempt g.query with
    | some q => pure (.inQuery e negated q)
    | none => do pure (.inList e negated (← g.exprs))
  requireSymbol ")"
  return result

def between (e : Expr) (negated : Bool) : Reader Expr := do
  let low ← g.expr strengthOfBetween
  require ["AND"]
  return .between e negated low (← g.expr strengthOfBetween)

def optionalEscape : Reader Unit := do
  if ← accept ["ESCAPE"] then
    let _ ← literal

/-- What begins with `NOT`, `IN`, `BETWEEN` or a way to match a text. A `NULL` before the
pattern of `REGEXP` is no pattern. -/
def predicate (e : Expr) : Reader Expr := do
  let negated ← accept ["NOT"]
  let sign := if negated then "NOT " else ""
  let regexp ← accept ["REGEXP"]
  let rlike ← accept ["RLIKE"]
  let null ← accept ["NULL"]
  if regexp || rlike then return .binary (sign ++ "REGEXP") e (← g.expr strengthOfLike)
  else if negated && null then return .test e "NOT NULL"
  else if ← accept ["IN"] then membership g e negated
  else if ← accept ["BETWEEN"] then between g e negated
  else if let some k ← acceptOne ["LIKE", "ILIKE"] then
    let _ ← accept ["ANY"]
    let pattern ← g.expr strengthOfLike
    optionalEscape
    return .binary (sign ++ k) e pattern
  else if ← accept ["SIMILAR", "TO"] then
    let pattern ← g.expr strengthOfLike
    optionalEscape
    return .binary (sign ++ "SIMILAR TO") e pattern
  else fail

/-- Operators between two operands, by their symbol or word. -/
def binaryOperators : List String :=
  ["<=>", "==", ":=", "=", "!=", ">", ">=", "<", "<=", "+", "-", "*", "%", "||", "|", "^", "&",
   "/", "~", "~*", "!~", "!~*", "~~", "~~*", "!~~", "!~~*", "->", "->>", "@>", "<@", "@?", "@@",
   "AND", "OR", "XOR", "OVERLAPS"]

/-- Operators that may compare with `ANY` and `ALL`. -/
def comparisons : List String :=
  [">", "<", ">=", "<=", "=", "==", "!=", "~", "~*", "!~", "!~*", "~~", "~~*", "!~~", "!~~*"]

/-- The right operand of `op`, or what `ANY` or `ALL` compares with. -/
def rightOperand (e : Expr) (op : String) (strength : Nat) : Reader Expr := do
  match ← acceptOne ["ANY", "ALL", "SOME"] with
  | none => return .binary op e (← g.expr strength)
  | some quantifier =>
    let ts ← rest
    requireSymbol "("
    let right ←
      if ← atSubquery then fun _ => g.expr strength ts
      else do
        let right ← g.expr strength
        requireSymbol ")"
        pure right
    if comparisons.contains op then return .quantified op quantifier e right else fail

/-- Reads the operator of the given strength behind `e`. -/
def operator (e : Expr) (strength : Nat) : Reader Expr := fun ts =>
  match ts with
  | [] => .error .unexpected
  | t :: r =>
    match t with
    | .symbol "::" => (do dataType; return Expr.form "CAST" [e]) r
    | .symbol s =>
      if binaryOperators.contains s then rightOperand g e s strength r else .error .unexpected
    | .word _ (some key) =>
      if key = "DIV" then (do return Expr.binary "DIV" e (← g.anyExpr)) r
      else if binaryOperators.contains key then rightOperand g e key strength r
      else if key = "IS" then isTest g e r
      else if key = "AT" then
        (do
          require ["TIME", "ZONE"]
          return Expr.binary "AT TIME ZONE" e (← g.expr strength)) r
      else if key = "MEMBER" then
        (do
          require ["OF"]
          return Expr.binary "MEMBER OF" e (← parenthesized g.anyExpr)) r
      else predicate g e ts
    | _ => .error .unexpected

/-- Reads the operators behind `e` that bind more tightly than `least`, at
most `n` of them. -/
def operators (least : Nat) : Nat → Expr → Reader Expr
  | 0, e => return e
  | n + 1, e => fun ts =>
    let s := strength ts
    if s ≤ least ∨ ts.head? = some (.symbol ".") then .ok (e, ts)
    else (operator g e s >>= operators least n) ts

/-- An expression of operators that bind more tightly than `least`. -/
def expr (least : Nat) : Reader Expr := do
  let root ← operand g
  let ts ← rest
  let e := joinSteps root (← steps g ts.length)
  let ts ← rest
  operators g least ts.length e

end QueryGate.Sql.Read
