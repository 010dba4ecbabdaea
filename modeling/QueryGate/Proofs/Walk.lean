import Mathlib.Control.Monad.Basic
import QueryGate.Gate.Combined
import QueryGate.Proofs.Lexical
import QueryGate.Proofs.Pieces
import QueryGate.Proofs.Result
/-!
# What the walk reaches

An accepted statement has its queries walked, through `EXPLAIN`, and nothing
else. So a dangerous call can only stand where the walk does not look, and the
same holds of a system schema. Each is told exactly.
-/

namespace QueryGate.Gate

open QueryGate.Sql
open Piece (Within)

/-! ## What is accepted -/

theorem checkQuery_ok {q : Query} {kind : Kind} (h : checkQuery q = .ok kind) :
    shape q.body = .ok kind ∧ ∀ n ∈ q.nodes, checkNode n = .ok () := by
  obtain ⟨k, hs, h⟩ := bind_eq_ok.1 h
  obtain ⟨_, hn, h⟩ := bind_eq_ok.1 h
  obtain rfl := pure_eq_ok.1 h
  exact ⟨hs, forM_eq_ok.1 hn⟩

theorem checkParsed_of_check {text : List Char} {kind : Kind} (h : check text = .ok kind) :
    checkParsed text = .ok kind := by
  unfold check at h
  cases hp : checkParsed text with
  | ok k =>
    rw [hp] at h
    obtain ⟨_, -, h⟩ := bind_eq_ok.1 h
    rw [pure_eq_ok.1 h]
  | error e =>
    rw [hp] at h
    cases e <;> try cases h
    obtain ⟨_, -, h⟩ := bind_eq_ok.1 h
    cases h

theorem check_eq_ok_iff {text : List Char} {kind : Kind} :
    check text = .ok kind ↔ checkParsed text = .ok kind ∧ Lexical.check text = .ok () := by
  constructor
  · intro h
    refine ⟨checkParsed_of_check h, ?_⟩
    rw [check, checkParsed_of_check h] at h
    obtain ⟨_, hl, -⟩ := bind_eq_ok.1 h
    exact hl
  · rintro ⟨hp, hl⟩
    rw [check, hp]
    exact bind_eq_ok.2 ⟨(), hl, rfl⟩

theorem check_of_passes {text : List Char} {kind : Kind} (hp : checkParsed text = .ok kind)
    (hl : Lexical.passes text) : check text = .ok kind :=
  check_eq_ok_iff.2 ⟨hp, Lexical.passes_iff.1 hl⟩

theorem operation_ok {op : SetOperator} {left right : Body} {kind : Kind}
    (h : shape (.operation op left right) = .ok kind) :
    (∃ k, shape left = .ok k) ∧ ∃ k, shape right = .ok k := by
  unfold shape at h
  split at h
  · obtain ⟨l, hl, h⟩ := bind_eq_ok.1 h
    obtain ⟨r, hr, -⟩ := bind_eq_ok.1 h
    exact ⟨⟨l, hl⟩, r, hr⟩
  · cases h

theorem select_ok {s : Select} {kind : Kind} (h : shape (.select s) = .ok kind) :
    s.into = none := by
  unfold shape at h
  split at h
  · cases h
  · simp_all

/-! ## The walk -/

/-- The queries of a statement that are walked. -/
def walked : Statement → List Piece
  | .query q => [.query q]
  | .explain _ s => walked s
  | _ => []

/-- The trees of a statement that are not: the filter and the limit of a
`SHOW`. -/
def unwalked : Statement → List Piece
  | .show (.listing _ _ filter limit) => filter.toList.map .expr ++ limit.toList.map .expr
  | .explain _ s => unwalked s
  | _ => []

/-- Whether a part is in one of some trees. -/
def In (roots : List Piece) (p : Piece) : Prop := ∃ root ∈ roots, Within p root

/-- Whether a part is anywhere in a statement. -/
def Has (s : Statement) (p : Piece) : Prop := In (walked s ++ unwalked s) p

theorem has_iff {s : Statement} {p : Piece} : Has s p ↔ In (walked s) p ∨ In (unwalked s) p := by
  simp only [Has, In, List.mem_append, or_and_right, exists_or]

/-- What the walk leaves of a part: its nodes pass, a body has a shape that may
run, and a `SELECT` has no `INTO`. -/
structure Passed (p : Piece) : Prop where
  nodes : ∀ n ∈ p.own, checkNode n = .ok ()
  body : ∀ b, p = .body b → ∃ kind, shape b = .ok kind
  into : ∀ s, p = .select s → s.into = none

/-- Bodies and selects right inside what passed. -/
theorem shaped_child {p c : Piece} (h : Passed p) (hc : c ∈ p.children) :
    (∀ b, c = .body b → ∃ kind, shape b = .ok kind) ∧ ∀ s, c = .select s → s.into = none := by
  constructor
  · rintro b rfl
    rcases Piece.body_child hc with ⟨q, rfl, rfl⟩ | ⟨op, left, right, rfl, hb⟩
    · obtain ⟨kind, hs, -⟩ := bind_eq_ok.1 (h.nodes (.query q.body) (by simp [Piece.own]))
      exact ⟨kind, hs⟩
    · obtain ⟨kind, hs⟩ := h.body _ rfl
      obtain ⟨hl, hr⟩ := operation_ok hs
      rcases hb with rfl | rfl
      · exact hl
      · exact hr
  · rintro s rfl
    obtain ⟨kind, hs⟩ := h.body _ (Piece.select_child hc)
    exact select_ok hs

theorem passed_within {p root : Piece} (h : Within p root) (hroot : Passed root)
    (hnodes : ∀ n ∈ root.nodes, checkNode n = .ok ()) : Passed p := by
  induction h with
  | here => exact hroot
  | @inside r c hc _ ih =>
    -- A part's nodes are its own and those below, so what passed passes inwards.
    have below : ∀ n ∈ c.nodes, checkNode n = .ok () := by
      intro n hn
      refine hnodes n ?_
      rw [Piece.nodes_eq]
      exact List.mem_append_right _ (List.mem_flatMap.2 ⟨c, hc, hn⟩)
    have own : ∀ n ∈ c.own, checkNode n = .ok () := by
      intro n hn
      refine below n ?_
      rw [Piece.nodes_eq]
      exact List.mem_append_left _ hn
    obtain ⟨hbody, hselect⟩ := shaped_child hroot hc
    exact ih ⟨own, hbody, hselect⟩ below

theorem passed_of_checkStatement {s : Statement} {kind : Kind}
    (h : checkStatement s = .ok kind) {p : Piece} (hp : In (walked s) p) : Passed p := by
  induction s generalizing kind with
  | query q =>
    obtain ⟨root, hroot, hw⟩ := hp
    obtain rfl := List.mem_singleton.1 hroot
    obtain ⟨hs, hn⟩ := checkQuery_ok h
    refine passed_within hw ⟨?_, by simp, by simp⟩ hn
    intro n hn'
    exact hn n (Piece.mem_nodes.2 ⟨_, .here, hn'⟩)
  | explain analyze s ih =>
    cases analyze with
    | true => cases h
    | false =>
      obtain ⟨k, hs, -⟩ := bind_eq_ok.1 h
      exact ih hs hp
  | «show» | describe | use | other =>
    obtain ⟨root, hroot, -⟩ := hp
    cases hroot

/-! ## Dangerous calls -/

/-- The function a part calls, as an expression. -/
def call? : Piece → Option Name
  | .expr (.call function _) => some function
  | _ => none

/-- The function a part calls in the place of a table. -/
def tableCall? : Piece → Option Name
  | .table (.named function (some _) _ _) => some function
  | .table (.function function _ _) => some function
  | _ => none

/-- The last part of the name is dangerous, in whatever case and quotes. -/
def IsDangerous (function : Name) : Prop :=
  ∃ front last, function = front ++ [last] ∧
    String.ofList (Text.lower last.text) ∈ dangerousFunctions

/-- Nothing in a statement calls a dangerous function. -/
def CallsNothingDangerous (s : Statement) : Prop :=
  ∀ p, Has s p → ∀ f, call? p = some f ∨ tableCall? p = some f → ¬ IsDangerous f

theorem isDangerous_iff {function : Name} :
    IsDangerous function ↔ ∃ f ∈ dangerousFunctions, calledFunction function = some f := by
  constructor
  · rintro ⟨front, last, rfl, hf⟩
    exact ⟨smallForm last, hf, by simp [calledFunction]⟩
  · rintro ⟨f, hf, hc⟩
    obtain ⟨last, hlast, rfl⟩ := Option.map_eq_some_iff.1 hc
    obtain ⟨front, rfl⟩ := List.getLast?_eq_some_iff.1 hlast
    exact ⟨front, last, rfl, hf⟩

/-- A check for a listed text lets pass what is not listed, and nothing else. -/
theorem filter_contains_eq_none {name : Option String} {listed : List String} :
    name.filter (listed.contains ·) = none ↔ ¬ ∃ s ∈ listed, name = some s := by
  cases name <;> simp [Option.filter]

theorem checkNode_call_iff {function : Name} :
    checkNode (.call function) = .ok () ↔ ¬ IsDangerous function := by
  rw [isDangerous_iff, ← filter_contains_eq_none, checkNode]
  cases (calledFunction function).filter (dangerousFunctions.contains ·) <;> simp

theorem not_isDangerous_of_passed {p : Piece} {f : Name} (h : Passed p) (hc : call? p = some f) :
    ¬ IsDangerous f := by
  unfold call? at hc
  split at hc
  · cases hc
    exact checkNode_call_iff.1 (h.nodes _ (by simp [Piece.own]))
  · cases hc

/-- An accepted statement calls nothing dangerous, if no call in the place of a
table does and no call in the filter or the limit of a `SHOW`. -/
theorem calls_of_check {text : List Char} {kind : Kind} (h : check text = .ok kind) :
    ∃ s, readStatement text = .ok s ∧ checkStatement s = .ok kind ∧
      (CallsNothingDangerous s ↔
        (∀ p f, Has s p → tableCall? p = some f → ¬ IsDangerous f) ∧
          ∀ p f, In (unwalked s) p → call? p = some f → ¬ IsDangerous f) := by
  obtain ⟨s, hs, hk⟩ := bind_eq_ok.1 (checkParsed_of_check h)
  refine ⟨s, hs, hk, ?_, ?_⟩
  · intro safe
    exact ⟨fun p f hp hf => safe p hp f (.inr hf),
      fun p f hp hf => safe p (has_iff.2 (.inr hp)) f (.inl hf)⟩
  · rintro ⟨tables, filters⟩ p hp f (hf | hf)
    · rcases has_iff.1 hp with hw | hu
      · exact not_isDangerous_of_passed (passed_of_checkStatement hk hw) hf
      · exact filters p f hu hf
    · exact tables p f hp hf

theorem calls_of_check_users :
    check "SELECT id FROM users".toList = .ok .select ∧
      ∃ s, readStatement "SELECT id FROM users".toList = .ok s ∧ checkStatement s = .ok .select ∧
        (CallsNothingDangerous s ↔
          (∀ p f, Has s p → tableCall? p = some f → ¬ IsDangerous f) ∧
            ∀ p f, In (unwalked s) p → call? p = some f → ¬ IsDangerous f) :=
  have h : check "SELECT id FROM users".toList = .ok .select :=
    check_of_passes (by decide +kernel) (by decide +kernel)
  ⟨h, calls_of_check h⟩

/-- The tables right behind the `FROM` of a query. -/
def outerTables : Statement → List Table
  | .query ⟨_, .select s, _, _⟩ => s.tables
  | _ => []

theorem has_outerTable {s : Statement} {t : Table} (h : t ∈ outerTables s) :
    Has s (.table t) := by
  unfold outerTables at h
  split at h
  · next ctes select orderBy limit =>
    have inSelect : Within (.table t) (.select select) :=
      .inside (by simp [Piece.children, h]) .here
    have inBody : Within (.table t) (.body (.select select)) :=
      .inside (by simp [Piece.children]) inSelect
    refine ⟨_, List.mem_append_left _ (List.mem_singleton.2 rfl), ?_⟩
    exact .inside (by simp [Piece.children]) inBody
  · cases h

/-- A call in the place of a table is let through. -/
theorem table_call_accepted :
    check "SELECT * FROM sys_exec('id')".toList = .ok .select ∧
      ∃ s, readStatement "SELECT * FROM sys_exec('id')".toList = .ok s ∧
        ¬ CallsNothingDangerous s := by
  refine ⟨check_of_passes (by decide +kernel) (by decide +kernel), ?_⟩
  have called : (readStatement "SELECT * FROM sys_exec('id')".toList).map
      (fun s => (outerTables s).map fun t => (tableCall? (.table t)).bind calledFunction) =
      .ok [some "sys_exec"] := by decide +kernel
  obtain ⟨s, hs, hc⟩ := map_eq_ok.1 called
  refine ⟨s, hs, fun safe => ?_⟩
  have found : some "sys_exec" ∈
      (outerTables s).map fun t => (tableCall? (.table t)).bind calledFunction := by
    rw [hc]
    exact List.mem_singleton.2 rfl
  obtain ⟨t, ht, htf⟩ := List.mem_map.1 found
  obtain ⟨f, hf, hn⟩ := Option.bind_eq_some_iff.1 htf
  exact safe _ (has_outerTable ht) f (.inr hf) (isDangerous_iff.2 ⟨"sys_exec", by decide, hn⟩)

/-! ## System schemas -/

/-- The name of a table, or of what stands in the place of one. -/
def tableName? : Piece → Option Name
  | .table (.named name ..) => some name
  | .table (.function name ..) => some name
  | .body (.table name _) => some name
  | _ => none

/-- The name of a function in the place of a table, `LATERAL f(…)`. -/
def lateral? : Piece → Option Name
  | .table (.function name ..) => some name
  | _ => none

/-- The part before the last is a system schema, in whatever case and quotes. -/
def InSystemSchema (name : Name) : Prop :=
  ∃ front schema last, name = front ++ [schema, last] ∧
    String.ofList (Text.lower schema.text) ∈ forbiddenSchemas

/-- Names right behind an unquoted `FROM` or `IN`. -/
def namesBehindFrom : List Ident → List String
  | i :: j :: r =>
    let others := namesBehindFrom (j :: r)
    if !i.quoted && ["from", "in"].contains (smallForm i) then smallForm j :: others else others
  | _ => []

/-- The schemas a `SHOW` names: what qualifies its table, or the database whose
objects it lists. -/
def shownSchemas : Show → List String
  | .listing kind within _ _ =>
    let name := within.getD []
    if kind = "COLUMNS" then name.dropLast.map smallForm else name.map smallForm
  | .creation _ name => (schemaOf name).toList
  | .words ws _ => namesBehindFrom ws

/-- The schemas a statement names outside its trees. -/
def namedSchemas : Statement → List String
  | .show s => shownSchemas s
  | .describe name => (schemaOf name).toList
  | .explain _ s => namedSchemas s
  | _ => []

/-- No object of a statement is in a system schema. -/
def StaysOutside (s : Statement) : Prop :=
  (∀ p, Has s p → ∀ name, tableName? p = some name → ¬ InSystemSchema name) ∧
    ∀ schema ∈ namedSchemas s, schema ∉ forbiddenSchemas

theorem inSystemSchema_iff {name : Name} :
    InSystemSchema name ↔ ∃ schema ∈ forbiddenSchemas, schemaOf name = some schema := by
  constructor
  · rintro ⟨front, schema, last, rfl, hs⟩
    refine ⟨smallForm schema, hs, ?_⟩
    have : (front ++ [schema, last]).dropLast = front ++ [schema] := by
      simp [List.dropLast_append_of_ne_nil]
    simp [schemaOf, this]
  · rintro ⟨s, hs, hn⟩
    obtain ⟨schema, hschema, rfl⟩ := Option.map_eq_some_iff.1 hn
    obtain ⟨front, hfront⟩ := List.getLast?_eq_some_iff.1 hschema
    cases hlast : name.getLast? with
    | none =>
      rw [List.getLast?_eq_none_iff.1 hlast] at hfront
      simp at hfront
    | some last =>
      obtain ⟨whole, rfl⟩ := List.getLast?_eq_some_iff.1 hlast
      refine ⟨front, schema, last, ?_, hs⟩
      rw [List.dropLast_concat] at hfront
      rw [hfront, List.append_assoc, List.singleton_append]

theorem checkNode_relation_iff {name : Name} :
    checkNode (.relation name) = .ok () ↔ ¬ InSystemSchema name := by
  rw [inSystemSchema_iff, ← filter_contains_eq_none, checkNode]
  cases (schemaOf name).filter (forbiddenSchemas.contains ·) <;> simp

theorem not_inSystemSchema_of_passed {p : Piece} {name : Name} (h : Passed p)
    (ht : tableName? p = some name) (hl : lateral? p = none) : ¬ InSystemSchema name := by
  unfold tableName? at ht
  split at ht
  · cases ht
    exact checkNode_relation_iff.1 (h.nodes _ (by simp [Piece.own]))
  · cases hl
  · obtain ⟨kind, hs⟩ := h.body _ rfl
    cases hs
  · cases ht

/-- An accepted statement stays outside of the system schemas, if no `SHOW` or
`DESCRIBE` names one, no filter or limit of a `SHOW` reads a table of one, and
no function in the place of a table is qualified by one. -/
theorem schemas_of_check {text : List Char} {kind : Kind} (h : check text = .ok kind) :
    ∃ s, readStatement text = .ok s ∧ checkStatement s = .ok kind ∧
      (StaysOutside s ↔
        (∀ schema ∈ namedSchemas s, schema ∉ forbiddenSchemas) ∧
          (∀ p name, In (unwalked s) p → tableName? p = some name → ¬ InSystemSchema name) ∧
          ∀ p name, Has s p → lateral? p = some name → ¬ InSystemSchema name) := by
  obtain ⟨s, hs, hk⟩ := bind_eq_ok.1 (checkParsed_of_check h)
  refine ⟨s, hs, hk, ?_, ?_⟩
  · rintro ⟨tables, named⟩
    refine ⟨named, fun p name hp ht => tables p (has_iff.2 (.inr hp)) name ht, fun p name hp hl => ?_⟩
    refine tables p hp name ?_
    unfold lateral? at hl
    split at hl
    · exact hl
    · cases hl
  · rintro ⟨named, filters, laterals⟩
    refine ⟨fun p hp name ht => ?_, named⟩
    cases hl : lateral? p with
    | none =>
      rcases has_iff.1 hp with hw | hu
      · exact not_inSystemSchema_of_passed (passed_of_checkStatement hk hw) ht hl
      · exact filters p name hu ht
    | some function =>
      have same : function = name := by
        unfold lateral? at hl
        split at hl
        · cases hl; cases ht; rfl
        · cases hl
      exact laterals p name hp (same ▸ hl)

theorem schemas_of_check_users :
    check "SHOW COLUMNS FROM users".toList = .ok .show ∧
      ∃ s, readStatement "SHOW COLUMNS FROM users".toList = .ok s ∧ checkStatement s = .ok .show ∧
        (StaysOutside s ↔
          (∀ schema ∈ namedSchemas s, schema ∉ forbiddenSchemas) ∧
            (∀ p name, In (unwalked s) p → tableName? p = some name → ¬ InSystemSchema name) ∧
            ∀ p name, Has s p → lateral? p = some name → ¬ InSystemSchema name) :=
  have h : check "SHOW COLUMNS FROM users".toList = .ok .show :=
    check_of_passes (by decide +kernel) (by decide +kernel)
  ⟨h, schemas_of_check h⟩

/-- The tables of a system schema can be listed. -/
theorem system_tables_listed :
    check "SHOW TABLES FROM mysql".toList = .ok .show ∧
      ∃ s, readStatement "SHOW TABLES FROM mysql".toList = .ok s ∧ ¬ StaysOutside s := by
  refine ⟨check_of_passes (by decide +kernel) (by decide +kernel), ?_⟩
  have named : (readStatement "SHOW TABLES FROM mysql".toList).map namedSchemas =
      .ok ["mysql"] := by decide +kernel
  obtain ⟨s, hs, hn⟩ := map_eq_ok.1 named
  refine ⟨s, hs, fun safe => safe.2 "mysql" ?_ (by decide)⟩
  rw [hn]
  exact List.mem_singleton.2 rfl

end QueryGate.Gate
