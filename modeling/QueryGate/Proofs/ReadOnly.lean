import QueryGate.Proofs.Walk
/-!
# Which queries may run

The verdict on a query is told without the walk: by the form of the bodies at
any depth, the functions called and the tables named. `checkStatement_query_iff`
says that the verdict is exactly that, so nothing else is refused either.
-/

namespace QueryGate.Gate

open QueryGate.Sql
open Piece (Within)

/-! ## Bodies -/

/-- A body that is made of `SELECT` without `INTO`, unions and queries in
parentheses. -/
inductive Reads : Body → Prop where
  | select {s : Select} : s.into = none → Reads (.select s)
  | nested {q : Query} : Reads q.body → Reads (.nested q)
  | union {left right : Body} : Reads left → Reads right → Reads (.operation .union left right)

/-- The kind that the outermost form of a body has. -/
inductive FormOf : Body → Kind → Prop where
  | select (s : Select) : FormOf (.select s) .select
  | nested (q : Query) : FormOf (.nested q) .parenthesized
  | operation (op : SetOperator) (left right : Body) : FormOf (.operation op left right) .union

theorem FormOf.unique {b : Body} {k l : Kind} (hk : FormOf b k) (hl : FormOf b l) : k = l := by
  cases hk <;> cases hl <;> rfl

theorem reads_of_shape {b : Body} {kind : Kind} (h : shape b = .ok kind) :
    Reads b ∧ FormOf b kind := by
  fun_induction shape b generalizing kind with
  | case1 => cases h
  | case2 s hinto =>
    cases h
    exact ⟨.select (by simpa using hinto), .select s⟩
  | case3 ctes body orderBy limit ih =>
    obtain ⟨k, hk, h⟩ := bind_eq_ok.1 h
    obtain rfl := pure_eq_ok.1 h
    exact ⟨.nested (ih hk).1, .nested _⟩
  | case4 left right ihl ihr =>
    obtain ⟨l, hl, h⟩ := bind_eq_ok.1 h
    obtain ⟨r, hr, h⟩ := bind_eq_ok.1 h
    obtain rfl := pure_eq_ok.1 h
    exact ⟨.union (ihl hl).1 (ihr hr).1, .operation ..⟩
  | case5 | case6 | case7 | case8 => cases h

theorem shape_of_reads {b : Body} (h : Reads b) : ∃ kind, shape b = .ok kind := by
  induction h with
  | @select s hinto => exact ⟨.select, by simp [shape, hinto]⟩
  | @nested q _ ih =>
    obtain ⟨k, hk⟩ := ih
    obtain ⟨ctes, body, orderBy, limit⟩ := q
    refine ⟨.parenthesized, ?_⟩
    rw [shape]
    exact bind_eq_ok.2 ⟨k, hk, rfl⟩
  | @union left right _ _ ihl ihr =>
    obtain ⟨l, hl⟩ := ihl
    obtain ⟨r, hr⟩ := ihr
    refine ⟨.union, ?_⟩
    rw [shape, if_pos rfl]
    exact bind_eq_ok.2 ⟨l, hl, bind_eq_ok.2 ⟨r, hr, rfl⟩⟩

theorem shape_eq_ok_iff {b : Body} {kind : Kind} :
    shape b = .ok kind ↔ Reads b ∧ FormOf b kind := by
  refine ⟨reads_of_shape, ?_⟩
  rintro ⟨hb, hform⟩
  obtain ⟨k, hk⟩ := shape_of_reads hb
  rw [hk, (reads_of_shape hk).2.unique hform]

/-! ## Nodes -/

theorem checkNode_query_iff {b : Body} : checkNode (.query b) = .ok () ↔ Reads b := by
  constructor
  · intro h
    obtain ⟨kind, hs, -⟩ := bind_eq_ok.1 h
    exact (reads_of_shape hs).1
  · intro h
    obtain ⟨kind, hs⟩ := shape_of_reads h
    exact bind_eq_ok.2 ⟨kind, hs, rfl⟩

/-! ## Queries -/

/-- What makes a query one that may run, wherever in it a query, a call or a
table stands. -/
structure ReadOnly (q : Query) : Prop where
  bodies : ∀ r, Within (.query r) (.query q) → Reads r.body
  calls : ∀ function parts, Within (.expr (.call function parts)) (.query q) →
    ¬ IsDangerous function
  tables : ∀ table args label hints, Within (.table (.named table args label hints)) (.query q) →
    ¬ InSystemSchema table

theorem readOnly_iff {q : Query} : ReadOnly q ↔ ∀ n ∈ q.nodes, checkNode n = .ok () := by
  have mem : ∀ n, n ∈ q.nodes ↔ ∃ p, Within p (.query q) ∧ n ∈ p.own :=
    fun n => Piece.mem_nodes (p := .query q)
  constructor
  · intro h n hn
    obtain ⟨p, hp, hown⟩ := (mem n).1 hn
    -- Only queries, calls and named tables bring a node of their own.
    unfold Piece.own at hown
    split at hown
    · obtain rfl := List.mem_singleton.1 hown
      exact checkNode_call_iff.2 (h.calls _ _ hp)
    · obtain rfl := List.mem_singleton.1 hown
      exact checkNode_query_iff.2 (h.bodies _ hp)
    · obtain rfl := List.mem_singleton.1 hown
      exact checkNode_relation_iff.2 (h.tables _ _ _ _ hp)
    · cases hown
  · intro h
    have node : ∀ p n, Within p (.query q) → n ∈ p.own → checkNode n = .ok () :=
      fun p n hp hn => h n ((mem n).2 ⟨p, hp, hn⟩)
    refine ⟨fun r hr => ?_, fun function parts hf => ?_, fun table args label hints ht => ?_⟩
    · exact checkNode_query_iff.1 (node _ _ hr (by simp [Piece.own]))
    · exact checkNode_call_iff.1 (node _ _ hf (by simp [Piece.own]))
    · exact checkNode_relation_iff.1 (node _ _ ht (by simp [Piece.own]))

theorem checkQuery_eq_ok_iff {q : Query} {kind : Kind} :
    checkQuery q = .ok kind ↔ ReadOnly q ∧ FormOf q.body kind := by
  rw [readOnly_iff]
  constructor
  · intro h
    obtain ⟨hs, hn⟩ := checkQuery_ok h
    exact ⟨hn, (reads_of_shape hs).2⟩
  · rintro ⟨hn, hform⟩
    -- The outermost body is that of a node too.
    have outer : checkNode (.query q.body) = .ok () :=
      hn _ (Piece.mem_nodes (p := .query q).2 ⟨_, .here, by simp [Piece.own]⟩)
    have hs : shape q.body = .ok kind := shape_eq_ok_iff.2 ⟨checkNode_query_iff.1 outer, hform⟩
    exact bind_eq_ok.2 ⟨kind, hs, bind_eq_ok.2 ⟨(), forM_eq_ok.2 hn, rfl⟩⟩

/-- A query is accepted exactly if it reads only, at any depth, and then its
kind is the form of its outermost body. -/
theorem checkStatement_query_iff (q : Query) :
    ((∃ kind, checkStatement (.query q) = .ok kind) ↔ ReadOnly q) ∧
      ∀ kind, checkStatement (.query q) = .ok kind ↔ ReadOnly q ∧ FormOf q.body kind := by
  refine ⟨⟨?_, fun h => ?_⟩, fun kind => checkQuery_eq_ok_iff⟩
  · rintro ⟨kind, h⟩
    exact (checkQuery_eq_ok_iff.1 h).1
  · obtain ⟨kind, hs⟩ := shape_of_reads (h.bodies q .here)
    exact ⟨kind, checkQuery_eq_ok_iff.2 ⟨h, (reads_of_shape hs).2⟩⟩

end QueryGate.Gate
