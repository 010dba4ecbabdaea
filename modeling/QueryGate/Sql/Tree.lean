import QueryGate.Sql.Token
/-!
# Statements as trees

What a statement is made of, as far as a reader has to tell one query, table,
function or filter from another. Lists of expressions stand in the order of the
text.
-/

namespace QueryGate.Sql

/-- One part of a name. -/
structure Ident where
  text : List Char
  quoted : Bool
  deriving Repr, DecidableEq

/-- A name of one or more parts, such as `schema.table`. -/
abbrev Name := List Ident

inductive SetOperator where
  | union
  | intersect
  | except
  | minus
  deriving Repr, DecidableEq

def SetOperator.text : SetOperator → String
  | union => "UNION"
  | intersect => "INTERSECT"
  | except => "EXCEPT"
  | minus => "MINUS"

mutual

inductive Expr where
  | column (name : Name)
  /-- A constant, as its units. -/
  | literal (units : List Token)
  /-- All columns, or those of one table. -/
  | star (table : Name)
  /-- An expression and the name a select list gives it. -/
  | labelled (e : Expr) (label : Ident)
  | unary (op : String) (e : Expr)
  | binary (op : String) (left right : Expr)
  /-- A comparison with `ANY` or `ALL`. -/
  | quantified (op quantifier : String) (left right : Expr)
  /-- Tests such as `IS NULL` and `IS NOT TRUE`. -/
  | test (e : Expr) (property : String)
  | inList (e : Expr) (negated : Bool) (items : List Expr)
  | inQuery (e : Expr) (negated : Bool) (query : Query)
  | between (e : Expr) (negated : Bool) (low high : Expr)
  /-- A `CASE`: the operand, each condition with its result, the default. -/
  | cases (parts : List Expr)
  /-- An expression with a spelling of its own, such as `CAST` or `EXTRACT`. -/
  | form (keyword : String) (parts : List Expr)
  /-- A function call: its arguments, then the expressions of its clauses. -/
  | call (function : Name) (parts : List Expr)
  | exists (negated : Bool) (query : Query)
  | subquery (query : Query)
  | nested (e : Expr)
  | tuple (items : List Expr)
  | array (items : List Expr)
  /-- A field or an element of a value. -/
  | access (root : Expr) (steps : List Expr)

structure SortKey where
  key : Expr
  descending : Bool

/-- The parts of `LIMIT` and `OFFSET`; `LIMIT offset, count` has the offset first. -/
structure Limit where
  count : Option Expr
  offset : Option Expr
  offsetFirst : Bool

structure Query where
  ctes : List Cte
  body : Body
  orderBy : List SortKey
  limit : Limit

structure Cte where
  name : Ident
  query : Query

inductive Body where
  | select (s : Select)
  | nested (query : Query)
  | operation (op : SetOperator) (left right : Body)
  | values (cells : List Expr)
  /-- `TABLE t`, with the units behind it that are passed over. -/
  | table (name : Name) (passed : List Token)
  /-- A statement that writes, in the place of a query. -/
  | write (w : Write)

structure Select where
  /-- What `DISTINCT ON` and `TOP` hold. -/
  head : List Expr
  items : List Expr
  into : Option Name
  tables : List Table
  views : List Expr
  filter : Option Expr
  grouping : List Expr
  having : Option Expr
  /-- Named windows and `QUALIFY`. -/
  windows : List Expr

/-- What is inside a statement that writes. -/
structure Write where
  tables : List Table
  queries : List Query
  parts : List Expr

inductive Table where
  /-- A table by its name or, with arguments, a call in its place. -/
  | named (name : Name) (args : Option (List Expr)) (label : Option Ident) (hints : List Expr)
  | derived (query : Query) (label : Option Ident)
  /-- A call in the place of a table, `LATERAL f(…)`. -/
  | function (name : Name) (args : List Expr) (label : Option Ident)
  /-- An expression in the place of a table, `TABLE (…)` or `JSON_TABLE (…)`. -/
  | computed (e : Expr) (label : Option Ident)
  | nested (t : Table) (label : Option Ident)
  | join (left right : Table) (on : Option Expr)

end

deriving instance Repr for Expr, SortKey, Limit, Query, Cte, Body, Select, Write, Table

instance : Inhabited Expr := ⟨.star []⟩

/-- What a rejected statement would do. -/
inductive Category where
  | modification
  | databaseDefinition
  | definition
  | assignment
  | transaction
  | administration
  | unsupported
  deriving Repr, DecidableEq

def Category.text : Category → String
  | modification => "DML"
  | databaseDefinition => "database DDL"
  | definition => "DDL"
  | assignment => "SET"
  | transaction => "transaction control"
  | administration => "administrative"
  | unsupported => "unsupported"

/-- What a `SHOW` statement shows. -/
inductive Show where
  /-- Objects of a kind, of the schema or table `within`, that pass the filter,
  up to a number of them. -/
  | listing (kind : String) (within : Option Name) (filter limit : Option Expr)
  /-- The statement that makes an object, `SHOW CREATE`. -/
  | creation (kind : String) (name : Name)
  /-- Any other `SHOW`: its words, and the units that are passed over since they
  are no words. -/
  | words (ws : List Ident) (passed : List Token)
  deriving Repr

inductive Statement where
  | query (q : Query)
  | show (s : Show)
  | explain (analyze : Bool) (s : Statement)
  | describe (name : Name)
  | use (name : Name)
  /-- A statement that no reader may run; the keyword is its first one or two
  words. -/
  | other (category : Category) (keyword : String)
  deriving Repr

end QueryGate.Sql
