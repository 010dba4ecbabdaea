import QueryGate.Proofs.Front.Administration
import QueryGate.Sql.Read.Statement
/-!
# Statements take from the front
-/

namespace QueryGate.Sql

namespace Read

open Reader

set_option synthInstance.maxSize 1000000000

variable (g : Grammar)

instance (keyword : String) (r : Reader Write) [Front r] : Front (written keyword r) := by
  unfold written; infer_instance

/-! ## SHOW -/

/-- Whether a unit is a word. -/
def isWord : Token → Bool
  | .word .. => true
  | _ => false

/-- What is taken, up to the first equals sign or semicolon, is the words and the
units that are passed over. -/
theorem wordsOf_eq (ts : List Token) :
    ∃ taken, ts = taken ++ (wordsOf ts).2 ∧ (wordsOf ts).1.passed = taken.filter (!isWord ·) ∧
      (wordsOf ts).1.words = taken.filterMap fun t => if isWord t then t.ident? else none := by
  induction ts with
  | nil => exact ⟨[], rfl, rfl, rfl⟩
  | cons t r ih =>
    obtain ⟨taken, hr, hp, hw⟩ := ih
    unfold wordsOf
    split
    · exact ⟨[], rfl, rfl, rfl⟩
    · refine ⟨t :: taken, ?_⟩
      dsimp only
      split
      · exact ⟨congrArg (_ :: ·) hr, by simpa [isWord] using hp, by simp [isWord, Token.ident?, hw]⟩
      · next hn =>
        have plain : isWord t = false := by
          cases t <;> first | rfl | exact absurd rfl (hn _ _)
        exact ⟨congrArg (_ :: ·) hr, by simp [plain, hp], by simp [plain, hw]⟩

section

variable [g.Front]

instance : Front (showFilter g) := by unfold showFilter; infer_instance

instance : Front showWithin := by
  unfold showWithin
  refine .seq inferInstance fun behind => ?_
  split
  · infer_instance
  · refine .seq inferInstance fun kind => ?_
    split
    · infer_instance
    · infer_instance

instance (kind : String) : Front (listing g kind) := by unfold listing; infer_instance

instance (kind : String) : Front (filtered g kind) := by unfold filtered; infer_instance

instance frontWords : Front fun ts =>
    let (ws, r) := wordsOf ts
    (.ok (Show.words ws.words ws.passed, r) : Except Fault (Show × List Token)) where
  suffix ts s r h := by
    cases h
    obtain ⟨taken, hr, -⟩ := wordsOf_eq ts
    exact ⟨taken, hr.symm⟩

instance : Front (showStatement g) := by
  unfold showStatement
  repeat' first
    | with_reducible refine .seq inferInstance fun _ => ?_
    | with_reducible refine .either ?_ ?_
    | infer_instance
    | split

instance : Front explainFormat := by unfold explainFormat; infer_instance

end

end Read

/-! ## The grammar -/

namespace Grammar

instance : bottom.Front := by
  refine ⟨fun n => ⟨?_⟩, ⟨?_⟩, ⟨?_⟩⟩
  · intro ts a r h; cases h
  · intro ts a r h; cases h
  · intro ts a r h; cases h

instance (g : Grammar) [g.Front] : (above g).Front where
  expr n := inferInstanceAs (Reader.Front (Read.expr g n))
  query := inferInstanceAs (Reader.Front (Read.query g))
  table := inferInstanceAs (Reader.Front (Read.table g))

instance (n : Nat) : (levels n).Front := by
  induction n with
  | zero => exact inferInstanceAs bottom.Front
  | succ n ih => exact inferInstanceAs (above (levels n)).Front

end Grammar

namespace Read

open Reader

set_option synthInstance.maxSize 1000000000

variable (g : Grammar) [g.Front] [Reader.Front g.statement]

/-- The statement inside has been read one level deeper. -/
instance : Front (explain g) := by
  unfold explain
  dsimp only
  repeat' first | infer_instance | refine .seq inferInstance fun _ => ?_ | split

instance (keyword : String) : Front (statementAfter g keyword) := by
  unfold statementAfter
  split <;> try infer_instance
  split
  · next tail known =>
    have := other_front g keyword tail known
    infer_instance
  · infer_instance

instance : Front (statement g) where
  suffix ts s r h := by
    unfold statement at h
    split at h
    · cases h
    · next t rest =>
      split at h
      · exact (Front.of_ok h).trans (List.drop_suffix _ _)
      · split at h
        · cases h; exact List.drop_suffix _ _
        · split at h
          · exact Front.of_ok h
          · split at h
            · exact (Front.of_ok h).trans (List.suffix_cons _ _)
            · cases h

omit [g.Front] [Reader.Front g.statement] in
theorem query_of_statement {t : Token} {ts r : List Token} {s : Statement} (ht : t.isKey "SELECT")
    (h : statement g (t :: ts) = .ok (s, r)) :
    ∃ q, s = .query q ∧ g.query (t :: ts) = .ok (q, r) := by
  unfold statement at h
  dsimp only at h
  have other {k : String} (hne : "SELECT" ≠ k) : t.isKey k = false := isKey_other ht hne
  rw [if_neg (by simp [areKeys, other]), if_neg (by simp [areKeys, other]),
    if_pos (by simp [ht])] at h
  obtain ⟨q, u, hq, hp⟩ := bind_ok.1 h
  cases hp
  exact ⟨q, rfl, hq⟩

end Read

theorem Grammar.levels_front (n : Nat) : Reader.Front (levels n).statement := by
  induction n with
  | zero => exact ⟨fun ts s r h => by cases h⟩
  | succ n ih => exact inferInstanceAs (Reader.Front (Read.statement (levels n)))

end QueryGate.Sql
