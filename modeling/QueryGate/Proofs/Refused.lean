import QueryGate.Gate.Verdict
import QueryGate.Proofs.Front.Basic
import QueryGate.Sql.Read.Statement
/-!
# Statements that may not run

A statement that may run is a query, a `SHOW`, a `DESCRIBE`, a `USE` or an
`EXPLAIN` of one of these. The readers of all others come to nothing but
`Statement.other`.
-/

namespace QueryGate.Sql

/-- Whether no statement of another kind is in it. -/
def Statement.Readable : Statement → Prop
  | .explain _ s => s.Readable
  | .other .. => False
  | _ => True

/-- A reader that comes to nothing but statements of other kinds. -/
class Reader.Refused (p : Reader Statement) : Prop where
  refused : ∀ ts s r, p ts = .ok (s, r) → ¬ s.Readable

namespace Reader.Refused

instance other (category : Category) (keyword : String) :
    Refused (pure (.other category keyword)) where
  refused ts s r h := by cases h; exact id

instance bind {α : Type} (p : Reader α) (f : α → Reader Statement) [∀ a, Refused (f a)] :
    Refused (p >>= f) where
  refused ts s r h := by
    obtain ⟨a, u, -, hf⟩ := bind_ok.1 h
    exact refused u s r hf

theorem seq {α : Type} {p : Reader α} {f : α → Reader Statement} (h : ∀ a, Refused (f a)) :
    Refused (p >>= f) :=
  inferInstance

instance ite (c : Prop) [Decidable c] (p q : Reader Statement) [Refused p] [Refused q] :
    Refused (if c then p else q) := by
  split
  · assumption
  · assumption

/-- As `Front.either`. -/
theorem either {c : Prop} [Decidable c] {p q : Reader Statement} (hp : Refused p)
    (hq : Refused q) : Refused (if c then p else q) :=
  inferInstance

instance fail : Refused fail where
  refused ts s r h := by cases h

end Reader.Refused

namespace Read

open Reader

set_option synthInstance.maxSize 1000000000

variable (g : Grammar)

instance (keyword : String) (r : Reader Write) : Refused (written keyword r) := by
  unfold written; infer_instance

instance : Refused (create g) := by
  unfold create
  dsimp only
  -- The last choice is a match, which instances do not look into.
  repeat' first
    | with_reducible refine .seq fun _ => ?_
    | with_reducible refine .either ?_ ?_
    | infer_instance
    | split

instance : Refused (alter g) := by
  unfold alter
  refine .seq fun kind => ?_
  split <;> infer_instance

instance : Refused drop := by unfold drop; infer_instance

instance : Refused (truncate g) := by unfold truncate; infer_instance

instance : Refused (set g) := by unfold set; infer_instance

instance : Refused start := by unfold start; infer_instance

instance : Refused beginTransaction := by unfold beginTransaction; infer_instance

instance : Refused rollback := by unfold rollback; infer_instance

instance : Refused grant := by unfold grant; infer_instance

instance : Refused revoke := by unfold revoke; infer_instance

instance : Refused kill := by unfold kill; infer_instance

instance : Refused flush := by
  unfold flush
  refine .seq fun _ => .seq fun kind => ?_
  dsimp only
  split <;> infer_instance

instance : Refused lock := by unfold lock; infer_instance

instance : Refused (analyze g) := by unfold analyze; infer_instance

instance : Refused (callStatement g) := by unfold callStatement; infer_instance

instance : Refused (prepare g) := by unfold prepare; infer_instance

instance : Refused (execute g) := by unfold execute; infer_instance

instance : Refused deallocate := by unfold deallocate; infer_instance

instance : Refused rename := by unfold rename; infer_instance

end Read

end QueryGate.Sql

namespace QueryGate.Gate

open QueryGate.Sql

theorem readable_of_checkStatement {s : Statement} {kind : Kind}
    (h : checkStatement s = .ok kind) : s.Readable := by
  induction s generalizing kind with
  | explain analyze s ih =>
    cases analyze with
    | true => cases h
    | false =>
      obtain ⟨k, hs, -⟩ := bind_eq_ok.1 h
      exact ih hs
  | other => cases h
  | query | «show» | describe | use => trivial

end QueryGate.Gate
