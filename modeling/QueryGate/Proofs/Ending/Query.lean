import QueryGate.Proofs.Ending.Expr
import QueryGate.Proofs.Front.Statement
/-!
# How much of an ending a query's body reads

At most its first three units, of which the last is a label.
-/

namespace QueryGate.Sql

theorem Left.drop {n : List Char} {i : Nat} {ts : List Token} (h : Left n i ts) (k : Nat) :
    Left n (i + k) (ts.drop k) := by
  induction k generalizing i ts with
  | zero => exact h
  | succ k ih =>
    cases ts with
    | nil => exact h.mono (by omega)
    | cons t ts => exact (ih h.next).mono (by omega)

namespace Read

open Reader

set_option synthInstance.maxSize 1000000000

variable {n : List Char} {i : Nat} (g : Grammar) [g.Bounded n]

/-! ## Tables -/

instance : Bounded n i columnLabels i := by
  refine Spares.bounded ?_
  unfold columnLabels
  repeat' first | omega | with_reducible constructor | intro _

instance : Bounded n i tableLabel (i + 1) := by
  refine Spares.bounded ?_
  unfold tableLabel
  refine .seq fun l => ?_
  split
  all_goals repeat' first | omega | with_reducible constructor | intro _

instance : Bounded n i indexHint 0 := by
  refine Spares.bounded ?_
  unfold indexHint
  dsimp only
  repeat' first
    | omega
    | with_reducible refine .symbol ?_ ?_
    | with_reducible refine .seq fun _ => ?_
    | with_reducible refine .front fun _ => ?_
    | with_reducible refine .ite ?_ ?_
    | with_reducible exact .last (by omega)

instance (m : Nat) : Bounded n i (indexHints m) i := by
  induction m generalizing i with
  | zero => exact (Spares.done (Nat.le_refl _)).bounded
  | succ m ih =>
    have later := ih (i := 0)
    refine ⟨fun ts a r hl h => ?_⟩
    unfold indexHints at h
    split at h
    · exact (Spares.seq fun _ => .last (by omega) : Spares n i i _).left hl h
    · cases h; exact hl

instance : Bounded n i (withHints g) i where
  left ts es r hl h := by
    unfold withHints at h
    split at h
    · split at h
      · exact ((Spares.seq fun _ => .seq fun _ => .done (Nat.le_refl _) : Spares n 0 0 _).left
          hl.next.behind_symbol h).mono (Nat.zero_le _)
      · cases h; exact hl
    · cases h; exact hl

instance : Bounded n i (jsonTable g) 1 := by
  refine Spares.bounded ?_
  unfold jsonTable
  repeat' first | omega | with_reducible constructor | intro _

instance : Bounded n i (tableArguments g) 0 := by
  refine Spares.bounded ?_
  unfold tableArguments
  repeat' first | omega | with_reducible constructor | intro _

instance : Bounded n i (derived g) 1 := by
  refine Spares.bounded ?_
  unfold derived
  repeat' first | omega | with_reducible constructor | intro _

instance : Bounded n 0 (tableParenthesis g) 2 := by
  refine Spares.bounded ?_
  unfold tableParenthesis
  refine .attempted (fun t => .done (by decide)) (.seq fun t => ?_)
  repeat' first | omega | with_reducible constructor | intro _

instance : Bounded n 0 (namedTable g) 2 := by
  refine Spares.bounded ?_
  unfold namedTable
  dsimp only
  repeat' first | omega | exact .all (by decide) | with_reducible constructor | intro _

instance : Bounded n 0 (factor g) 2 where
  left ts t r hl h := by
    unfold factor at h
    split at h
    · next t rest =>
      split at h
      · exact (Bounded.of_ok (p := jsonTable g) hl.next h).mono (by decide)
      · split at h
        · exact (Spares.seq fun _ => .seq fun _ => .seq fun _ => .done (by decide) :
            Spares n 0 2 _).left hl.next.behind_symbol h
        · split at h
          · exact (Bounded.of_ok (p := derived g) hl.next.behind_symbol h).mono (by decide)
          · split at h
            · next opening => exact Bounded.of_ok (opening ▸ hl).behind_symbol h
            · exact Bounded.of_ok hl h
    · next t rest _ =>
      split at h
      · cases h
      · split at h
        · next lateral =>
          exact (Spares.seq fun _ => .seq fun _ => .seq fun _ => .seq fun _ => .done (by decide) :
            Spares n 0 2 _).left (hl.behind_key lateral (by decide)) h
        · split at h
          · next opening => exact Bounded.of_ok (opening ▸ hl).behind_symbol h
          · exact Bounded.of_ok hl h
    · cases h

instance (unconditional : Bool) : Bounded n i (joinCondition g unconditional) (max i 2) := by
  refine Spares.bounded ?_
  unfold joinCondition
  repeat' first | omega | exact .all (by decide) | with_reducible constructor | intro _

/-- A word of a join is none of the ending. -/
theorem left_of_joinWords (natural : Bool) (ts : List Token) (b : Bool) (r : List Token)
    (hl : Left n i ts) (h : joinWords natural ts = .ok (b, r)) :
    Left n 0 r ∨ b = false ∧ Left n i r := by
  obtain ⟨o, u, ho, h'⟩ := bind_ok.1 h
  obtain ⟨-, -, hu⟩ | ⟨rfl, hu⟩ := left_of_acceptOne hl (.all (by decide)) ho
  · left
    refine Spares.left (k := 0) ?_ hu h'
    split
    all_goals repeat' first | omega | exact .all (by decide) | with_reducible constructor | intro _
  · change (if natural = true then fail else pure false : Reader Bool) u = _ at h'
    split at h' <;> cases h'
    exact .inr ⟨rfl, hu⟩

instance (left : Table) : Bounded n i (join? g left) (max i 2) := by
  refine Spares.bounded ?_
  unfold join?
  dsimp only
  -- Every kind of join begins with a word that the ending does not have.
  refine .passed (.all (by decide)) fun _ => .accepted (.all (by decide)) ?_ ?_
  · repeat' first | omega | exact .all (by decide) | with_reducible constructor | intro _
  · refine .accepted (.all (by decide)) ?_ (.accepted (.all (by decide)) ?_ ?_)
    · repeat' first | omega | exact .all (by decide) | with_reducible constructor | intro _
    · refine .required (.all (by decide)) (.seq fun right => .required (.all (by decide)) ?_)
      refine .seq fun nearest => .seq fun condition => ?_
      split
      all_goals repeat' first | omega | with_reducible constructor
    · refine .passed (.all (by decide)) fun natural => .tested (left_of_joinWords natural) ?_ ?_
      all_goals repeat' first | omega | with_reducible constructor | intro _

instance (m : Nat) (left : Table) : Bounded n 2 (joins g m left) 2 := by
  refine Spares.bounded ?_
  induction m generalizing left with
  | zero => exact .done (Nat.le_refl _)
  | succ m ih =>
    unfold joins
    refine .seq (j := 2) fun t => ?_
    split
    · exact ih _
    · exact .done (Nat.le_refl _)

instance : Bounded n 0 (table g) 2 := by
  refine Spares.bounded ?_
  unfold table
  repeat' first | omega | with_reducible constructor | intro _

/-! ## Queries -/

instance (e : Expr) : Bounded n 2 (item.labelOf e) 3 := by
  refine Spares.bounded ?_
  unfold item.labelOf
  refine .seq fun l => ?_
  split
  all_goals repeat' first | omega | with_reducible constructor

instance : Bounded n 0 (item g) 3 := by
  refine Spares.bounded ?_
  unfold item
  refine .seq fun e => ?_
  split
  all_goals repeat' first | omega | with_reducible constructor

instance : Bounded n 0 (distinct g) 0 := by
  refine Spares.bounded ?_
  unfold distinct
  repeat' first | omega | exact .all (by decide) | with_reducible constructor | intro _

instance : Bounded n 0 (top g) 0 := by
  refine Spares.bounded ?_
  unfold top
  dsimp only
  repeat' first | omega | exact .all (by decide) | with_reducible constructor | intro _

instance : Bounded n i into (max i 1) := by
  refine Spares.bounded ?_
  unfold into
  repeat' first | omega | exact .all (by decide) | with_reducible constructor | intro _

instance (m : Nat) : Bounded n i (views g m) (max i 3) := by
  refine Spares.bounded ?_
  induction m generalizing i with
  | zero => exact .done (by omega)
  | succ m ih =>
    have behindColumns := (ih (i := 1)).bounded
    have behindName := (ih (i := 3)).bounded
    unfold views
    repeat' first | omega | exact .all (by decide) | with_reducible constructor | intro _

theorem bounded_optionalExprs {ks : List String} (foreign : Foreign i (ks.take 1) (ks.drop 1)) :
    Bounded n i (optionalExprs g ks) (max i 2) := by
  refine Spares.bounded ?_
  unfold optionalExprs
  exact .accepted foreign (.last (by omega)) (.done (by omega))

instance : Bounded n i (optionalExprs g ["CLUSTER", "BY"]) (max i 2) :=
  bounded_optionalExprs g (.all (by decide))

instance : Bounded n i (optionalExprs g ["DISTRIBUTE", "BY"]) (max i 2) :=
  bounded_optionalExprs g (.all (by decide))

theorem bounded_optionalExpr {k : String} (foreign : Foreign i [k] []) :
    Bounded n i (optionalExpr g k) (max i 2) := by
  refine Spares.bounded ?_
  unfold optionalExpr
  exact .accepted foreign (.seq fun _ => .done (by omega)) (.done (by omega))

instance : Bounded n i (optionalExpr g "WHERE") (max i 2) :=
  bounded_optionalExpr g (.all (by decide))

instance : Bounded n i (optionalExpr g "HAVING") (max i 2) :=
  bounded_optionalExpr g (.all (by decide))

instance : Bounded n i (optionalExpr g "QUALIFY") (max i 2) :=
  bounded_optionalExpr g (.all (by decide))

instance (m : Nat) : Bounded n i (groupModifiers m) i := by
  refine Spares.bounded ?_
  induction m generalizing i with
  | zero => exact .done (Nat.le_refl _)
  | succ m ih =>
    have := (ih (i := 0)).bounded
    unfold groupModifiers
    repeat' first | omega | exact .all (by decide) | with_reducible constructor | intro _

instance : Bounded n i (grouping g) (max i 2) := by
  refine Spares.bounded ?_
  unfold grouping
  dsimp only
  repeat' first | omega | exact .all (by decide) | with_reducible constructor | intro _

instance : Bounded n 0 (namedWindow g) 0 := by
  refine Spares.bounded ?_
  unfold namedWindow
  repeat' first | omega | exact .all (by decide) | with_reducible constructor | intro _

instance : Bounded n i (namedWindows g) i := by
  refine Spares.bounded ?_
  unfold namedWindows
  repeat' first | omega | exact .all (by decide) | with_reducible constructor | intro _

instance : Bounded n i (windows g) (max i 2) := by
  refine Spares.bounded ?_
  unfold windows
  dsimp only
  repeat' first | omega | with_reducible constructor | intro _

instance : Bounded n 0 (select g) 3 := by
  refine Spares.bounded ?_
  unfold select
  dsimp only
  repeat' first | omega | exact .all (by decide) | with_reducible constructor | intro _

instance : Bounded n 0 (valuesRow g) 0 := by
  refine Spares.bounded ?_
  unfold valuesRow
  repeat' first | omega | exact .all (by decide) | with_reducible constructor | intro _

instance : Bounded n 0 tableQuery 3 where
  left ts b r hl h := by
    unfold tableQuery at h
    split at h
    · cases h
      exact hl.next.behind_symbol.next.mono (by decide)
    · cases h
    · cases h
      exact hl.next.drop 2
    · cases h

instance : Bounded n 0 (term g) 3 := by
  refine Spares.bounded ?_
  unfold term
  repeat' first | omega | exact .all (by decide) | with_reducible constructor | intro _

theorem left_of_setOperator {ops : List (String × SetOperator)} {ts r : List Token}
    {o : Option SetOperator} (foreign : Foreign i (ops.map Prod.fst) []) (hl : Left n i ts)
    (h : setOperator? ops ts = .ok (o, r)) : Left n 0 r ∨ o = none ∧ Left n i r := by
  obtain ⟨w, u, hw, h'⟩ := bind_ok.1 h
  obtain ⟨w, rfl, hu⟩ | ⟨rfl, hu⟩ := left_of_acceptOne hl foreign hw
  · cases h'; exact .inl hu
  · cases h'; exact .inr ⟨rfl, hu⟩

instance : Bounded n 0 setQuantifier 0 := by
  refine Spares.bounded ?_
  unfold setQuantifier
  repeat' first
    | omega
    | exact .all (by decide)
    | exact ⟨by decide, by decide, by decide⟩
    | with_reducible constructor
    | intro _

theorem left_of_operations {ops : List (String × SetOperator)} {right : SetOperator → Reader Body}
    [∀ op, Bounded n 0 (right op) 3] (foreign : Foreign 3 (ops.map Prod.fst) []) {m : Nat}
    {left b : Body} {ts r : List Token} (hl : Left n 3 ts)
    (h : operations ops right m left ts = .ok (b, r)) : Left n 3 r := by
  induction m generalizing left ts with
  | zero => cases h; exact hl
  | succ m ih =>
    obtain ⟨o, u, ho, h'⟩ := bind_ok.1 h
    have operator := left_of_setOperator foreign hl ho
    split at h'
    · have hu : Left n 0 u := by
        obtain hu | ⟨none, -⟩ := operator
        · exact hu
        · cases none
      obtain ⟨_, v, hv, h'⟩ := bind_ok.1 h'
      obtain ⟨_, w, hw, h'⟩ := bind_ok.1 h'
      exact ih (Bounded.of_ok (Bounded.of_ok hu hv : Left n 0 v) hw) h'
    · cases h'
      obtain hu | ⟨-, hu⟩ := operator
      · exact hu.mono (by decide)
      · exact hu

instance : Bounded n 0 (intersections g) 3 where
  left ts b r hl h := by
    obtain ⟨left, u, hu, h'⟩ := bind_ok.1 h
    obtain ⟨_, _, hrest, h'⟩ := bind_ok.1 h'
    cases hrest
    exact left_of_operations (.all (by decide)) (Bounded.of_ok hl hu) h'

instance (op : SetOperator) :
    Bounded n 0 (if op = .intersect then term g else intersections g) 3 := by
  split <;> infer_instance

instance : Bounded n 0 (body g) 3 where
  left ts b r hl h := by
    obtain ⟨left, u, hu, h'⟩ := bind_ok.1 h
    obtain ⟨_, _, hrest, h'⟩ := bind_ok.1 h'
    cases hrest
    exact left_of_operations (.all (by decide)) (Bounded.of_ok hl hu) h'

/-! ## Limits and locks -/

instance : Bounded n 0 (offset g) 2 := by
  refine Spares.bounded ?_
  unfold offset
  repeat' first | omega | exact .all (by decide) | with_reducible constructor | intro _

/-- In front of the limit of the ending stands its order. -/
instance : Bounded n 3 (limit g) 3 := by
  have foreign : Foreign 3 (["LIMIT"].take 1) (["LIMIT"].drop 1) :=
    ⟨by decide, by decide, by decide⟩
  refine Spares.bounded ?_
  unfold limit
  dsimp only
  refine .accepted (.all (by decide)) ?_ ?_
  · refine .seq fun offset => .seq fun before => .known (foreign.mono (by decide)) ?_ ?_
    · simp only [if_true]
      repeat' first | omega | exact .all (by decide) | with_reducible constructor | intro _ | split
    · simp only [if_false, Bool.false_eq_true]
      repeat' first | omega | with_reducible constructor | intro _ | split
  · refine .seq fun before => .known foreign ?_ ?_
    · simp only [if_true]
      repeat' first | omega | exact .all (by decide) | with_reducible constructor | intro _ | split
    · simp only [if_false, Bool.false_eq_true]
      repeat' first | omega | with_reducible constructor | intro _ | split

instance : Bounded n i fetch (max i 1) := by
  refine Spares.bounded ?_
  unfold fetch
  repeat' first | omega | exact .all (by decide) | with_reducible constructor | intro _

instance (m : Nat) : Bounded n i (locks m) (max i 1) := by
  refine Spares.bounded ?_
  induction m generalizing i with
  | zero => exact .done (by omega)
  | succ m ih =>
    have := (ih (i := 0)).bounded
    have := (ih (i := 1)).bounded
    unfold locks
    repeat' first | omega | exact .all (by decide) | with_reducible constructor | intro _

end Read

namespace Grammar

variable {n : List Char}

theorem bottom_bounded : bottom.Bounded n where
  expressions _ := ⟨fun _ _ _ _ h => by cases h⟩
  tables := ⟨fun _ _ _ _ h => by cases h⟩

instance (g : Grammar) [g.Bounded n] : (above g).Bounded n where
  expressions m := inferInstanceAs (Reader.Bounded n 0 (Read.expr g m) 2)
  tables := inferInstanceAs (Reader.Bounded n 0 (Read.table g) 2)

instance (m : Nat) : (levels m).Bounded n := by
  induction m with
  | zero => exact bottom_bounded
  | succ m ih => exact inferInstanceAs ((above (levels m)).Bounded n)

end Grammar

namespace Read

open Reader

variable {n : List Char} (g : Grammar) [g.Bounded n]

/-! ## The whole query -/

theorem ending_of_areKeys {ts : List Token} (hl : Left n 3 ts) (h : areKeys ["ORDER", "BY"] ts) :
    ts = ending n ∨ Left n 0 (ts.drop 2) := by
  obtain whole | ⟨j, hj, rfl⟩ := hl
  · obtain - | ⟨t, - | ⟨u, ts⟩⟩ := ts
    · cases h
    · cases (Bool.and_eq_true_iff.1 h).2
    · obtain ⟨-, hu⟩ := Bool.and_eq_true_iff.1 h
      obtain same | later := List.suffix_cons_iff.1 whole
      · exact .inl same.symm
      · obtain same | later := List.suffix_cons_iff.1 later
        · cases same
          cases hu
        · exact .inr (.inl later)
  · obtain rfl | rfl | rfl | rfl : j = 0 ∨ j = 1 ∨ j = 2 ∨ j = 3 := by omega
    · exact .inl rfl
    all_goals cases h

/-- The keys and the limit that the ending stands for. -/
def endingOrder : List SortKey := [⟨.column [⟨"_distance".toList, false⟩], false⟩]

def endingLimit (n : List Char) : Limit := ⟨some (.literal [.number n]), none, false⟩

theorem sortKeys_ending (g : Grammar) :
    sortKeys (.above g) ((ending n).drop 2) = .ok (endingOrder, (ending n).drop 4) := rfl

theorem limit_ending (g : Grammar) :
    limit (.above g) ((ending n).drop 4) = .ok (endingLimit n, []) := rfl

instance (body : Body) (order : List SortKey) : Bounded n 3 (behindOrder g body order) 3 := by
  refine Spares.bounded ?_
  unfold behindOrder
  repeat' first | omega | with_reducible constructor | intro _

/-- A query in front of the ending is ordered and limited by it, or leaves some
of it. -/
theorem ends_of_query {t : Token} {ts r : List Token} {q : Query} (ht : t.isKey "SELECT")
    (hl : Left n 0 (t :: ts)) (h : query (.above g) (t :: ts) = .ok (q, r)) :
    Left n 3 r ∨ r = [] ∧ q.orderBy = endingOrder ∧ q.limit = endingLimit n := by
  obtain ⟨b, u, hb, h⟩ := body_of_query _ ht h
  have hu : Left n 3 u := Bounded.of_ok hl hb
  obtain ⟨ordered, v, hv, h'⟩ := bind_ok.1 h
  unfold accept at hv
  split at hv
  · next keys =>
    cases hv
    obtain ⟨order, w, hw, h'⟩ := bind_ok.1 h'
    -- The `ORDER BY` is the ending's own, or an earlier one with the ending behind it.
    obtain rfl | whole := ending_of_areKeys hu keys
    · right
      change sortKeys (.above g) ((ending n).drop 2) = _ at hw
      rw [sortKeys_ending] at hw
      cases hw
      obtain ⟨count, x, hx, h'⟩ := bind_ok.1 h'
      rw [limit_ending] at hx
      cases hx
      cases h'
      exact ⟨rfl, rfl, rfl⟩
    · have hw : Left n 3 w := (Bounded.of_ok (p := sortKeys (.above g)) whole hw).mono (by decide)
      exact .inl (Bounded.of_ok (p := behindOrder (.above g) b order) hw h')
  · cases hv
    exact .inl (Bounded.of_ok (p := behindOrder (.above g) b []) hu h')

/-- The same of a statement. -/
theorem ends_of_statement {t : Token} {ts r : List Token} {s : Statement} (ht : t.isKey "SELECT")
    (hl : Left n 0 (t :: ts)) (h : statement (.above (.above g)) (t :: ts) = .ok (s, r)) :
    Left n 3 r ∨
      r = [] ∧ ∃ q, s = .query q ∧ q.orderBy = endingOrder ∧ q.limit = endingLimit n := by
  obtain ⟨q, rfl, hq⟩ := query_of_statement _ ht h
  obtain more | ⟨rfl, order, limit⟩ := ends_of_query g ht hl hq
  · exact .inl more
  · exact .inr ⟨rfl, q, rfl, order, limit⟩

end Read

end QueryGate.Sql
