import QueryGate.Proofs.Front.Expr
import QueryGate.Sql.Read.Query
/-!
# Queries take from the front
-/

namespace QueryGate.Sql.Read

open Reader

set_option synthInstance.maxSize 1000000000

variable (g : Grammar) [g.Front]

/-! ## Tables -/

instance : Front columnLabels := by unfold columnLabels; infer_instance

instance : Front tableLabel := by
  unfold tableLabel
  refine .seq inferInstance fun l => ?_
  split <;> infer_instance

instance : Front indexHint := by unfold indexHint; infer_instance

instance (n : Nat) : Front (indexHints n) := by
  induction n with
  | zero => unfold indexHints; infer_instance
  | succ n ih =>
    refine ⟨fun ts a r h => ?_⟩
    unfold indexHints at h
    split at h
    · exact Front.of_ok h
    · cases h; exact List.suffix_refl _

instance : Front (withHints g) where
  suffix ts es r h := by
    unfold withHints at h
    split at h
    · split at h
      · exact ((Front.of_ok h).trans (List.suffix_cons _ _)).trans (List.suffix_cons _ _)
      · cases h; exact List.suffix_refl _
    · cases h; exact List.suffix_refl _

instance (n : Nat) : Front (jsonFallbacks n) := by
  induction n with
  | zero => unfold jsonFallbacks; infer_instance
  | succ n ih => unfold jsonFallbacks; infer_instance

instance (n : Nat) : Front (jsonColumn n) := by
  induction n with
  | zero => unfold jsonColumn; infer_instance
  | succ n ih => unfold jsonColumn; infer_instance

instance : Front (jsonTable g) := by unfold jsonTable; infer_instance

instance : Front (tableArguments g) := by unfold tableArguments; infer_instance

instance : Front (derived g) := by unfold derived; infer_instance

instance : Front (tableParenthesis g) := by
  unfold tableParenthesis
  refine .seq inferInstance fun t => ?_
  split <;> infer_instance

instance : Front (namedTable g) := by unfold namedTable; infer_instance

instance : Front (factor g) where
  suffix ts t r h := by
    unfold factor at h
    split at h
    · next t rest =>
      have behind : rest <:+ t :: .symbol "(" :: rest :=
        (List.suffix_cons _ _).trans (List.suffix_cons _ _)
      split at h
      · exact (Front.of_ok h).trans (List.drop_suffix _ _)
      · split at h
        · exact (Front.of_ok h).trans behind
        · split at h
          · exact (Front.of_ok h).trans behind
          · split at h
            · exact (Front.of_ok h).trans (List.drop_suffix _ _)
            · exact Front.of_ok h
    · split at h
      · cases h
      · split at h
        · exact (Front.of_ok h).trans (List.suffix_cons _ _)
        · split at h
          · exact (Front.of_ok h).trans (List.suffix_cons _ _)
          · exact Front.of_ok h
    · cases h

instance (unconditional : Bool) : Front (joinCondition g unconditional) := by unfold joinCondition; infer_instance

instance (natural : Bool) : Front (joinWords natural) := by
  unfold joinWords
  refine .seq inferInstance fun word => ?_
  split <;> infer_instance

instance (left : Table) : Front (join? g left) := by
  unfold join?
  dsimp only
  -- Instances do not look into a match, so each is split where it is met.
  repeat' first | infer_instance | refine .seq inferInstance fun _ => ?_ | split

instance (n : Nat) (left : Table) : Front (joins g n left) := by
  induction n generalizing left with
  | zero => unfold joins; infer_instance
  | succ n ih =>
    unfold joins
    refine .seq inferInstance fun t => ?_
    split
    · exact ih _
    · infer_instance

instance : Front (table g) := by unfold table; infer_instance

/-! ## Statements that write -/

instance : Front columnNames := by unfold columnNames; infer_instance

instance : Front (assignment g) := by unfold assignment; infer_instance

instance : Front (assignments g) := by unfold assignments; infer_instance

instance (keywords : List String) (part : Reader (List Expr)) [Front part] :
    Front (optionalPart keywords part) := by
  unfold optionalPart; infer_instance

instance : Front (oneExpr g) := by unfold oneExpr; infer_instance

instance : Front (optionalFilter g) := by unfold optionalFilter; infer_instance

instance : Front (returned g) := by unfold returned; infer_instance

instance : Front (returning g) := by unfold returning; infer_instance

instance : Front (optionalOrder g) := by unfold optionalOrder; infer_instance

instance : Front (optionalCount g) := by unfold optionalCount; infer_instance

instance (keyword : String) : Front (optionalTables g keyword) := by unfold optionalTables; infer_instance

instance : Front atParenthesizedQuery where
  suffix ts b r h := by
    unfold atParenthesizedQuery at h
    split at h
    · cases h; exact List.suffix_refl _
    · cases h; exact List.suffix_refl _

instance : Front conflictWord := by unfold conflictWord; infer_instance

instance : Front (conflictClause g) := by unfold conflictClause; infer_instance

instance : Front (insertPartitions g) := by unfold insertPartitions; infer_instance

instance : Front (insertedRows g) := by unfold insertedRows; infer_instance

instance : Front (insert g) := by unfold insert; infer_instance

instance : Front (update g) := by unfold update; infer_instance

instance : Front (delete g) := by unfold delete; infer_instance

instance : Front (mergeValues g) := by unfold mergeValues; infer_instance

instance : Front (mergeAction g) := by unfold mergeAction; infer_instance

instance (n : Nat) : Front (mergeClauses g n) := by
  induction n with
  | zero => unfold mergeClauses; infer_instance
  | succ n ih => unfold mergeClauses; infer_instance

instance : Front (merge g) := by unfold merge; infer_instance

/-! ## Queries -/

instance (e : Expr) : Front (item.labelOf e) := by
  unfold item.labelOf
  refine .seq inferInstance fun l => ?_
  split <;> infer_instance

instance : Front (item g) := by
  unfold item
  refine .seq inferInstance fun e => ?_
  split <;> infer_instance

instance : Front (distinct g) := by unfold distinct; infer_instance

instance : Front (top g) := by unfold top; infer_instance

instance : Front into := by unfold into; infer_instance

instance (n : Nat) : Front (views g n) := by
  induction n with
  | zero => unfold views; infer_instance
  | succ n ih => unfold views; infer_instance

instance (keywords : List String) : Front (optionalExprs g keywords) := by unfold optionalExprs; infer_instance

instance (n : Nat) : Front (groupModifiers n) := by
  induction n with
  | zero => unfold groupModifiers; infer_instance
  | succ n ih => unfold groupModifiers; infer_instance

instance : Front (groupingSet g) := by unfold groupingSet; infer_instance

instance : Front (grouping g) := by unfold grouping; infer_instance

instance (keyword : String) : Front (optionalExpr g keyword) := by unfold optionalExpr; infer_instance

instance : Front (namedWindow g) := by unfold namedWindow; infer_instance

instance : Front (namedWindows g) := by unfold namedWindows; infer_instance

instance : Front (windows g) := by unfold windows; infer_instance

instance : Front (select g) := by unfold select; infer_instance

instance : Front (valuesRow g) := by unfold valuesRow; infer_instance

instance : Front tableQuery where
  suffix ts b r h := by
    unfold tableQuery at h
    split at h
    · cases h
      exact ((List.suffix_cons _ _).trans (List.suffix_cons _ _)).trans (List.suffix_cons _ _)
    · cases h
    · cases h; exact (List.drop_suffix _ _).trans (List.suffix_cons _ _)
    · cases h

instance : Front (term g) := by unfold term; infer_instance

instance (ops : List (String × SetOperator)) : Front (setOperator? ops) := by
  unfold setOperator?
  refine .seq inferInstance fun k => ?_
  split <;> infer_instance

instance : Front setQuantifier := by unfold setQuantifier; infer_instance

instance (ops : List (String × SetOperator)) (right : SetOperator → Reader Body)
    [∀ op, Front (right op)] (n : Nat) (left : Body) : Front (operations ops right n left) := by
  induction n generalizing left with
  | zero => unfold operations; infer_instance
  | succ n ih =>
    unfold operations
    refine .seq inferInstance fun op => ?_
    split <;> infer_instance

instance : Front (intersections g) := by unfold intersections; infer_instance

instance : Front (body g) := by unfold body; infer_instance

instance : Front (cte g) := by unfold cte; infer_instance

instance : Front (offset g) := by unfold offset; infer_instance

instance : Front (limit g) := by
  unfold limit
  dsimp only
  repeat' first
    | with_reducible refine .seq inferInstance fun _ => ?_
    | with_reducible refine .either ?_ ?_
    | infer_instance
    | split

instance : Front fetch := by unfold fetch; infer_instance

instance (n : Nat) : Front (locks n) := by
  induction n with
  | zero => unfold locks; infer_instance
  | succ n ih => unfold locks; infer_instance

instance : Front (writing g) := by
  unfold writing
  refine .seq inferInstance fun word => ?_
  split <;> infer_instance

instance : Front (query g) := by
  unfold query
  dsimp only
  repeat' first | infer_instance | refine .seq inferInstance fun _ => ?_ | split

/-! ## A query that begins with SELECT -/

theorem isKey_unique {t : Token} {k l : String} (hk : t.isKey k) (hl : t.isKey l) : k = l := by
  cases t with
  | word text key =>
    cases key with
    | none => cases hk
    | some key =>
      obtain rfl : key = k := by simpa [Token.isKey] using hk
      simpa [Token.isKey] using hl
  | _ => cases hk

theorem isKey_other {t : Token} {k l : String} (hk : t.isKey k) (hne : k ≠ l) :
    t.isKey l = false := by
  cases hl : t.isKey l with
  | false => rfl
  | true => exact absurd (isKey_unique hk hl) hne

/-- What is read behind the order of a query. -/
def behindOrder (body : Body) (order : List SortKey) : Reader Query := do
  let limit ← limit g
  fetch
  let ts ← rest
  locks ts.length
  return ⟨[], body, order, limit⟩

/-- What is read behind the body of a query. -/
def behindBody (body : Body) : Reader Query := do
  let order ← if ← accept ["ORDER", "BY"] then sortKeys g else pure []
  behindOrder g body order

omit [g.Front] in
theorem body_of_query {t : Token} {ts r : List Token} {q : Query} (ht : t.isKey "SELECT")
    (h : query g (t :: ts) = .ok (q, r)) :
    ∃ b u, body g (t :: ts) = .ok (b, u) ∧ behindBody g b u = .ok (q, r) := by
  have other {k : String} (hne : "SELECT" ≠ k) : t.isKey k = false := isKey_other ht hne
  unfold query at h
  dsimp only at h
  obtain ⟨withs, u, hw, h⟩ := bind_ok.1 h
  simp only [accept, areKeys, other (k := "WITH") (by decide), Bool.false_and] at hw
  cases hw
  rw [if_neg (by decide)] at h
  obtain ⟨ctes, v, hc, h⟩ := bind_ok.1 h
  cases hc
  obtain ⟨written, w, hwr, h⟩ := bind_ok.1 h
  obtain ⟨word, x, ha, hwr⟩ := bind_ok.1 hwr
  have none : ["INSERT", "UPDATE", "DELETE", "MERGE"].find? t.isKey = none := by
    simp [other]
  simp only [acceptOne, none] at ha
  cases ha
  cases hwr
  obtain ⟨b, y, hb, h⟩ := bind_ok.1 h
  exact ⟨b, y, hb, h⟩

end QueryGate.Sql.Read
