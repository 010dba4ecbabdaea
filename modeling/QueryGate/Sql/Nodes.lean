import QueryGate.Sql.Tree
/-!
# Nodes of a query

The queries, tables and function calls of a tree, each before what is inside
it, in the order of the text.
-/

namespace QueryGate.Sql

inductive Node where
  /-- A query at any depth, by its body. -/
  | query (body : Body)
  /-- A table named in a `FROM` list. -/
  | relation (name : Name)
  | call (function : Name)
  deriving Repr

mutual

def Expr.nodes : Expr → List Node
  | .column _ | .literal _ | .star _ => []
  | .labelled e _ | .unary _ e | .test e _ | .nested e => e.nodes
  | .binary _ left right | .quantified _ _ left right => left.nodes ++ right.nodes
  | .inList e _ items => e.nodes ++ exprsNodes items
  | .inQuery e _ query => e.nodes ++ query.nodes
  | .between e _ low high => e.nodes ++ low.nodes ++ high.nodes
  | .cases parts | .form _ parts => exprsNodes parts
  | .call function parts => .call function :: exprsNodes parts
  | .exists _ query | .subquery query => query.nodes
  | .tuple items | .array items => exprsNodes items
  | .access root steps => root.nodes ++ exprsNodes steps

def exprsNodes : List Expr → List Node
  | [] => []
  | e :: es => e.nodes ++ exprsNodes es

def optionNodes : Option Expr → List Node
  | none => []
  | some e => e.nodes

def argumentsNodes : Option (List Expr) → List Node
  | none => []
  | some args => exprsNodes args

def SortKey.nodes : SortKey → List Node
  | ⟨key, _⟩ => key.nodes

def sortKeysNodes : List SortKey → List Node
  | [] => []
  | k :: ks => k.nodes ++ sortKeysNodes ks

def Limit.nodes : Limit → List Node
  | ⟨count, offset, offsetFirst⟩ =>
    if offsetFirst then optionNodes offset ++ optionNodes count
    else optionNodes count ++ optionNodes offset

def Query.nodes : Query → List Node
  | ⟨ctes, body, orderBy, limit⟩ =>
    .query body :: (ctesNodes ctes ++ body.nodes ++ sortKeysNodes orderBy ++ limit.nodes)

def Cte.nodes : Cte → List Node
  | ⟨_, query⟩ => query.nodes

def ctesNodes : List Cte → List Node
  | [] => []
  | c :: cs => c.nodes ++ ctesNodes cs

def Body.nodes : Body → List Node
  | .select s => s.nodes
  | .nested query => query.nodes
  | .operation _ left right => left.nodes ++ right.nodes
  | .values cells => exprsNodes cells
  | .table .. => []
  | .write w => w.nodes

def Select.nodes : Select → List Node
  | ⟨head, items, _, tables, views, filter, grouping, having, windows⟩ =>
    exprsNodes head ++ exprsNodes items ++ tablesNodes tables ++ exprsNodes views ++
      optionNodes filter ++ exprsNodes grouping ++ optionNodes having ++ exprsNodes windows

def Write.nodes : Write → List Node
  | ⟨tables, queries, parts⟩ => tablesNodes tables ++ queriesNodes queries ++ exprsNodes parts

def queriesNodes : List Query → List Node
  | [] => []
  | q :: qs => q.nodes ++ queriesNodes qs

def Table.nodes : Table → List Node
  | .named name args _ hints => .relation name :: (argumentsNodes args ++ exprsNodes hints)
  | .derived query _ => query.nodes
  | .function _ args _ => exprsNodes args
  | .computed e _ => e.nodes
  | .nested t _ => t.nodes
  | .join left right on => left.nodes ++ right.nodes ++ optionNodes on

def tablesNodes : List Table → List Node
  | [] => []
  | t :: ts => t.nodes ++ tablesNodes ts

end

end QueryGate.Sql
