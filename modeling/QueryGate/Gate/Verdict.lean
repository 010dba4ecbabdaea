import QueryGate.Error
import QueryGate.Sql.Nodes
import QueryGate.Text.Case
/-!
# The verdict on a tree

Which statements a reader may run. Of a query every node is looked at: the
shape of each body, the name of each function called and the schema of each
table. The first offence in the order of the text is the one reported.
-/

namespace QueryGate.Gate

open QueryGate.Sql

/-- What an accepted statement is. -/
inductive Kind where
  | select
  | union
  /-- A query in parentheses. -/
  | parenthesized
  | show
  /-- What `DESCRIBE`, `DESC` and `EXPLAIN` are. -/
  | describe
  | use
  deriving Repr, DecidableEq

def Kind.text : Kind → String
  | .select => "SELECT"
  | .union => "UNION"
  | .parenthesized => "parenthesised SELECT"
  | .show => "SHOW"
  | .describe => "DESCRIBE/EXPLAIN"
  | .use => "USE"

/-- Functions that wait, lock, read files or run commands. -/
def dangerousFunctions : List String :=
  ["sleep", "benchmark", "get_lock", "release_lock", "is_free_lock", "is_used_lock",
   "release_all_locks", "load_file", "sys_eval", "sys_exec"]

def forbiddenSchemas : List String :=
  ["mysql", "information_schema", "performance_schema", "sys"]

/-! ## Names -/

/-- A part of a name in small letters. -/
def smallForm (i : Ident) : String := .ofList (Text.lower i.text)

/-- The function a call means, whatever qualifies it. -/
def calledFunction (name : Name) : Option String := name.getLast?.map smallForm

/-- The schema of a table: the part before the last. -/
def schemaOf (name : Name) : Option String := name.dropLast.getLast?.map smallForm

/-! ## Queries -/

/-- The kind of a query by its body: a `SELECT` without `INTO`, a union of
such, or a query in parentheses. -/
def shape : Body → Except Error Kind
  | .select s =>
    if s.into.isSome then .error (.disallowedKind "SELECT INTO") else .ok .select
  | .nested ⟨_, body, _, _⟩ => do
    let _ ← shape body
    return .parenthesized
  | .operation op left right =>
    if op = .union then do
      let _ ← shape left
      let _ ← shape right
      return .union
    else .error (.disallowedKind op.text)
  | .values _ => .error (.disallowedKind "VALUES")
  | .table .. => .error (.disallowedKind "TABLE")
  | .write _ => .error (.disallowedKind "non-SELECT query body")

def checkNode : Node → Except Error Unit
  | .query body => do
    let _ ← shape body
  | .relation name =>
    match (schemaOf name).filter (forbiddenSchemas.contains ·) with
    | some schema => .error (.forbiddenSchema schema)
    | none => .ok ()
  | .call function =>
    match (calledFunction function).filter (dangerousFunctions.contains ·) with
    | some name => .error (.dangerousFunction name)
    | none => .ok ()

def checkQuery (q : Query) : Except Error Kind := do
  let kind ← shape q.body
  q.nodes.forM checkNode
  return kind

/-! ## Statements -/

/-- The kind of a statement that may run, or why it may not. What `SHOW`,
`DESCRIBE` and `USE` name is not looked at. -/
def checkStatement : Statement → Except Error Kind
  | .query q => checkQuery q
  | .show _ => .ok .show
  | .describe _ => .ok .describe
  | .explain analyze s =>
    if analyze then .error (.disallowedKind "EXPLAIN ANALYZE")
    else do
      let _ ← checkStatement s
      return .describe
  | .use _ => .ok .use
  | .other category keyword =>
    .error (.disallowedKind (category.text ++ " (" ++ keyword ++ ")"))

end QueryGate.Gate
