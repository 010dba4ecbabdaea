import QueryGate.Proofs.Front.Definition
import QueryGate.Sql.Read.Administration
/-!
# Statements that administer take from the front
-/

namespace QueryGate.Sql.Read

open Reader

set_option synthInstance.maxSize 1000000000

/-! ## Assignments and transactions -/

instance : Front isolationLevel := by unfold isolationLevel; infer_instance

instance (required : Bool) (n : Nat) : Front (transactionModes required n) := by
  induction n generalizing required with
  | zero => unfold transactionModes; infer_instance
  | succ n ih =>
    unfold transactionModes
    infer_instance

instance : Front anyTransactionModes := by unfold anyTransactionModes; infer_instance

instance : Front scope := by unfold scope; infer_instance

instance : Front assignmentSign := by unfold assignmentSign; infer_instance

instance : Front setRole := by unfold setRole; infer_instance

instance : Front setNames := by unfold setNames; infer_instance

instance : Front setTransaction := by unfold setTransaction; infer_instance

instance : Front transactionWord := by unfold transactionWord; infer_instance

instance : Front chain := by unfold chain; infer_instance

instance : Front start := by unfold start; infer_instance

instance : Front beginTransaction := by unfold beginTransaction; infer_instance

instance : Front rollback := by unfold rollback; infer_instance

/-! ## Privileges, servers and locks -/

instance : Front privilege := by unfold privilege; infer_instance

instance (n : Nat) : Front (grantedName n) := by
  induction n with
  | zero => unfold grantedName; infer_instance
  | succ n ih => unfold grantedName; infer_instance

instance : Front grantee := by unfold grantee; infer_instance

instance (before : String) : Front (privileges before) := by unfold privileges; infer_instance

instance : Front grant := by unfold grant; infer_instance

instance : Front revoke := by unfold revoke; infer_instance

instance : Front kill := by unfold kill; infer_instance

instance (n : Nat) : Front (flushTables n) := by
  induction n with
  | zero => unfold flushTables; infer_instance
  | succ n ih =>
    unfold flushTables
    repeat' first | infer_instance | refine .seq inferInstance fun _ => ?_ | split

instance : Front flush := by
  unfold flush
  refine .seq inferInstance fun _ => .seq inferInstance fun kind => ?_
  dsimp only
  split <;> infer_instance

instance : Front lockedTable := by unfold lockedTable; infer_instance

instance : Front lock := by unfold lock; infer_instance

instance : Front deallocate := by unfold deallocate; infer_instance

instance : Front renamedTable := by unfold renamedTable; infer_instance

instance : Front rename := by unfold rename; infer_instance

instance : Front atParametersEnd := by unfold atParametersEnd; infer_instance

/-! ## Statements of other kinds -/

instance : Front cursorCount := by
  unfold cursorCount
  refine .seq inferInstance fun t => ?_
  split <;> infer_instance

instance : Front fetchDirection := by
  unfold fetchDirection
  refine .seq inferInstance fun direction => ?_
  split <;> infer_instance

instance : Front fetchRows := by unfold fetchRows; infer_instance

instance : Front pragmaValue := by
  unfold pragmaValue
  refine .seq inferInstance fun value => ?_
  split <;> infer_instance

instance : Front pragma := by unfold pragma; infer_instance

instance : Front vacuum := by unfold vacuum; infer_instance

instance : Front repairMetadata := by unfold repairMetadata; infer_instance

variable (g : Grammar) [g.Front]

instance : Front (setAssignment g) := by unfold setAssignment; infer_instance

instance : Front (setZone g) := by unfold setZone; infer_instance

instance : Front (setValues g) := by unfold setValues; infer_instance

instance (hasScope : Bool) : Front (setSpecial g hasScope) := by unfold setSpecial; infer_instance

instance : Front (set g) := by
  unfold set
  -- A list of assignments is read from the first unit again.
  refine .again fun ts us s r hu h => ?_
  obtain ⟨_, u, hscope, h⟩ := bind_ok.1 h
  obtain ⟨special, v, hspecial, h⟩ := bind_ok.1 h
  have hv : v <:+ ts := ((Front.of_ok hspecial).trans (Front.of_ok hscope)).trans hu
  dsimp only at h
  split at h
  · obtain ⟨_, w, hlist, h⟩ := bind_ok.1 h
    cases h
    have whole : Front (attempt (list (setAssignment g)) >>= fun assigned =>
        if assigned.isNone then setValues g else pure ()) := inferInstance
    exact whole.suffix _ _ _ hlist
  · cases h
    exact hv

instance (n : Nat) : Front (analyzeClauses g n) := by
  induction n with
  | zero => unfold analyzeClauses; infer_instance
  | succ n ih =>
    unfold analyzeClauses
    refine .seq inferInstance fun clause => ?_
    dsimp only
    split <;> infer_instance

instance : Front (analyze g) := by unfold analyze; infer_instance

instance : Front (callStatement g) := by unfold callStatement; infer_instance

instance : Front (labelledExpr g) := by unfold labelledExpr; infer_instance

instance : Front (execute g) := by unfold execute; infer_instance

instance : Front (declareCursor g) := by unfold declareCursor; infer_instance

instance : Front (copy g) := by unfold copy; infer_instance

instance : Front (cacheTable g) := by unfold cacheTable; infer_instance

theorem other_front (keyword : String) : ∀ r ∈ other? g keyword, Front r := by
  intro r hr
  unfold other? at hr
  split at hr <;> cases hr <;> infer_instance

instance [Front g.statement] : Front (prepare g) := by unfold prepare; infer_instance

end QueryGate.Sql.Read
