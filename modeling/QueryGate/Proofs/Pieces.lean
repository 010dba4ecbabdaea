import QueryGate.Sql.Nodes
/-!
# Parts of a tree

A tree is a root and the parts inside it, at any depth. `mem_nodes` says that
the nodes of a tree are what its parts bring each on its own, so that a check of
all nodes is a check of all parts.
-/

namespace QueryGate.Sql

/-- A piece of a tree. -/
inductive Piece where
  | expr (e : Expr)
  | query (q : Query)
  | body (b : Body)
  | select (s : Select)
  | write (w : Write)
  | table (t : Table)

/-- The two parts of a `LIMIT`, in the order of the text. -/
def Limit.exprs (l : Limit) : List Expr :=
  if l.offsetFirst then l.offset.toList ++ l.count.toList else l.count.toList ++ l.offset.toList

namespace Piece

/-- What is right inside a part, in the order of the text. -/
def children : Piece → List Piece
  | expr (.column _) | expr (.literal _) | expr (.star _) => []
  | expr (.labelled e _) | expr (.unary _ e) | expr (.test e _) | expr (.nested e) => [expr e]
  | expr (.binary _ left right) | expr (.quantified _ _ left right) => [expr left, expr right]
  | expr (.inList e _ items) => expr e :: items.map expr
  | expr (.inQuery e _ q) => [expr e, query q]
  | expr (.between e _ low high) => [expr e, expr low, expr high]
  | expr (.cases parts) | expr (.form _ parts) | expr (.call _ parts) => parts.map expr
  | expr (.exists _ q) | expr (.subquery q) => [query q]
  | expr (.tuple items) | expr (.array items) => items.map expr
  | expr (.access root steps) => expr root :: steps.map expr
  | query q =>
    q.ctes.map (fun c => query c.query) ++ body q.body :: q.orderBy.map (fun k => expr k.key) ++
      q.limit.exprs.map expr
  | body (.select s) => [select s]
  | body (.nested q) => [query q]
  | body (.operation _ left right) => [body left, body right]
  | body (.values cells) => cells.map expr
  | body (.table ..) => []
  | body (.write w) => [write w]
  | select s =>
    s.head.map expr ++ s.items.map expr ++ s.tables.map table ++ s.views.map expr ++
      s.filter.toList.map expr ++ s.grouping.map expr ++ s.having.toList.map expr ++
      s.windows.map expr
  | write w => w.tables.map table ++ w.queries.map query ++ w.parts.map expr
  | table (.named _ args _ hints) => (args.getD []).map expr ++ hints.map expr
  | table (.derived q _) => [query q]
  | table (.function _ args _) => args.map expr
  | table (.computed e _) => [expr e]
  | table (.nested t _) => [table t]
  | table (.join left right on) => table left :: table right :: on.toList.map expr

/-- The nodes a part brings by itself. -/
def own : Piece → List Node
  | expr (.call function _) => [.call function]
  | query q => [.query q.body]
  | table (.named name ..) => [.relation name]
  | _ => []

def nodes : Piece → List Node
  | expr e => e.nodes
  | query q => q.nodes
  | body b => b.nodes
  | select s => s.nodes
  | write w => w.nodes
  | table t => t.nodes

/-- What is inside a part, the part itself included. -/
inductive Within (q : Piece) : Piece → Prop
  | here : Within q q
  | inside {p c : Piece} : c ∈ p.children → Within q c → Within q p

/-! ## The nodes of a part -/

theorem exprsNodes_eq (es : List Expr) : exprsNodes es = es.flatMap Expr.nodes := by
  induction es with
  | nil => rfl
  | cons e es ih => rw [exprsNodes, ih, List.flatMap_cons]

theorem optionNodes_eq (e : Option Expr) : optionNodes e = e.toList.flatMap Expr.nodes := by
  cases e <;> simp [optionNodes]

theorem argumentsNodes_eq (args : Option (List Expr)) :
    argumentsNodes args = (args.getD []).flatMap Expr.nodes := by
  cases args <;> simp [argumentsNodes, exprsNodes_eq]

theorem sortKeysNodes_eq (ks : List SortKey) :
    sortKeysNodes ks = ks.flatMap fun k => k.key.nodes := by
  induction ks with
  | nil => rfl
  | cons k ks ih => cases k; rw [sortKeysNodes, ih, List.flatMap_cons, SortKey.nodes]

theorem ctesNodes_eq (cs : List Cte) : ctesNodes cs = cs.flatMap fun c => c.query.nodes := by
  induction cs with
  | nil => rfl
  | cons c cs ih => cases c; rw [ctesNodes, ih, List.flatMap_cons, Cte.nodes]

theorem queriesNodes_eq (qs : List Query) : queriesNodes qs = qs.flatMap Query.nodes := by
  induction qs with
  | nil => rfl
  | cons q qs ih => rw [queriesNodes, ih, List.flatMap_cons]

theorem tablesNodes_eq (ts : List Table) : tablesNodes ts = ts.flatMap Table.nodes := by
  induction ts with
  | nil => rfl
  | cons t ts ih => rw [tablesNodes, ih, List.flatMap_cons]

theorem limitNodes_eq (l : Limit) : l.nodes = l.exprs.flatMap Expr.nodes := by
  obtain ⟨count, offset, offsetFirst⟩ := l
  cases offsetFirst <;> simp [Limit.nodes, Limit.exprs, optionNodes_eq]

/-- A part's nodes are its own and then those of what is right inside it. -/
theorem nodes_eq (p : Piece) : p.nodes = p.own ++ p.children.flatMap nodes := by
  cases p with
  | expr e =>
    cases e <;> simp [nodes, own, children, Expr.nodes, exprsNodes_eq, List.flatMap_map]
  | query q =>
    cases q
    simp [nodes, own, children, Query.nodes, ctesNodes_eq, sortKeysNodes_eq, limitNodes_eq,
      List.flatMap_map]
  | body b =>
    cases b <;> simp [nodes, own, children, Body.nodes, exprsNodes_eq, List.flatMap_map]
  | select s =>
    cases s
    simp [nodes, own, children, Select.nodes, exprsNodes_eq, optionNodes_eq, tablesNodes_eq,
      List.flatMap_map]
  | write w =>
    cases w
    simp [nodes, own, children, Write.nodes, exprsNodes_eq, tablesNodes_eq, queriesNodes_eq,
      List.flatMap_map]
  | table t =>
    cases t <;>
      simp [nodes, own, children, Table.nodes, exprsNodes_eq, optionNodes_eq, argumentsNodes_eq,
        List.flatMap_map]

/-! ## Where bodies stand -/

theorem body_child {p : Piece} {b : Body} (h : body b ∈ p.children) :
    (∃ q, p = query q ∧ b = q.body) ∨
      ∃ op left right, p = body (.operation op left right) ∧ (b = left ∨ b = right) := by
  cases p with
  | query q => simpa [children] using h
  | body o =>
    cases o with
    | operation op left right => exact .inr ⟨op, left, right, rfl, by simpa [children] using h⟩
    | _ => simp [children] at h
  | expr e => cases e <;> simp [children] at h
  | select s => simp [children] at h
  | write w => simp [children] at h
  | table t => cases t <;> simp [children] at h

theorem select_child {p : Piece} {s : Select} (h : select s ∈ p.children) :
    p = body (.select s) := by
  cases p with
  | body o => cases o <;> simp_all [children]
  | query q => simp [children] at h
  | expr e => cases e <;> simp [children] at h
  | select s => simp [children] at h
  | write w => simp [children] at h
  | table t => cases t <;> simp [children] at h

/-! ## Parts are smaller than what they are in -/

theorem sizeOf_expr {es : List Expr} {e : Expr} (h : e ∈ es) : sizeOf e < sizeOf es :=
  List.sizeOf_lt_of_mem h

theorem sizeOf_argument {args : Option (List Expr)} {e : Expr} (h : e ∈ args.getD []) :
    sizeOf e < sizeOf args := by
  cases args with
  | none => cases h
  | some es =>
    have := sizeOf_expr h
    simp only [Option.getD_some, Option.some.sizeOf_spec] at this ⊢
    omega

theorem sizeOf_table {ts : List Table} {t : Table} (h : t ∈ ts) : sizeOf t < sizeOf ts :=
  List.sizeOf_lt_of_mem h

theorem sizeOf_query {qs : List Query} {q : Query} (h : q ∈ qs) : sizeOf q < sizeOf qs :=
  List.sizeOf_lt_of_mem h

theorem sizeOf_key {ks : List SortKey} {k : SortKey} (h : k ∈ ks) :
    sizeOf k.key + 1 < sizeOf ks := by
  have := List.sizeOf_lt_of_mem h
  cases k
  simp only [SortKey.mk.sizeOf_spec] at this ⊢
  omega

theorem sizeOf_cte {cs : List Cte} {c : Cte} (h : c ∈ cs) : sizeOf c.query + 1 < sizeOf cs := by
  have := List.sizeOf_lt_of_mem h
  cases c
  simp only [Cte.mk.sizeOf_spec] at this ⊢
  omega

theorem sizeOf_limit {l : Limit} {e : Expr} (h : e ∈ l.exprs) : sizeOf e < sizeOf l := by
  obtain ⟨count, offset, offsetFirst⟩ := l
  cases offsetFirst <;> grind [Limit.exprs]

theorem sizeOf_children {p c : Piece} (h : c ∈ p.children) : sizeOf c < sizeOf p := by
  cases p with
  | expr e => cases e <;> grind [children, → sizeOf_expr]
  | query q =>
    cases q
    grind [children, → sizeOf_key, → sizeOf_cte, → sizeOf_limit]
  | body b => cases b <;> grind [children, → sizeOf_expr]
  | select s => cases s; grind [children, → sizeOf_expr, → sizeOf_table]
  | write w => cases w; grind [children, → sizeOf_expr, → sizeOf_table, → sizeOf_query]
  | table t => cases t <;> grind [children, → sizeOf_expr, → sizeOf_argument]

theorem mem_nodes {p : Piece} {n : Node} : n ∈ p.nodes ↔ ∃ q, Within q p ∧ n ∈ q.own := by
  constructor
  · intro h
    rw [nodes_eq, List.mem_append, List.mem_flatMap] at h
    rcases h with own | ⟨c, hc, hn⟩
    · exact ⟨p, .here, own⟩
    · have := sizeOf_children hc
      obtain ⟨q, hq, own⟩ := mem_nodes.1 hn
      exact ⟨q, .inside hc hq, own⟩
  · rintro ⟨q, hq, own⟩
    induction hq with
    | here => rw [nodes_eq]; exact List.mem_append_left _ own
    | inside hc _ ih => rw [nodes_eq]; exact List.mem_append_right _ (List.mem_flatMap.2 ⟨_, hc, ih⟩)
termination_by sizeOf p

end Piece

end QueryGate.Sql
