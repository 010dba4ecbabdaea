import QueryGate.Proofs.Result
import QueryGate.Sql.Identifier
/-!
# Names that may be quoted

Quoting a name succeeds on acceptable names and puts them between backticks as
they are; of any other name it says that it is refused.
-/

namespace QueryGate.Sql.Identifier

/-- A name that may stand between backticks. -/
structure Acceptable (name : List Char) : Prop where
  filled : name ≠ []
  short : name.length ≤ 64
  plain : ∀ c ∈ name, c ∉ [' ', '\t', '\n', '\r', ';', '\x60', '\\']

theorem Acceptable.no_backtick {name : List Char} (h : Acceptable name) : '\x60' ∉ name :=
  fun hc => h.plain _ hc (by simp)

/-- The name between backticks. -/
def ticked (name : List Char) : List Char := '\x60' :: name ++ ['\x60']

theorem fault?_eq_none_iff {name : List Char} : fault? name = none ↔ Acceptable name := by
  have listed : forbidden.map Prod.fst = [' ', '\t', '\n', '\r', ';', '\x60', '\\'] := rfl
  have marks : (∀ p ∈ forbidden, p.1 ∉ name) ↔ ∀ c ∈ name, c ∉ forbidden.map Prod.fst := by
    constructor
    · intro absent c hc known
      obtain ⟨p, hp, rfl⟩ := List.mem_map.1 known
      exact absent p hp hc
    · intro plain p hp hc
      exact plain p.1 hc (List.mem_map_of_mem hp)
  rw [listed] at marks
  unfold fault?
  constructor
  · intro none
    split at none
    · cases none
    · next filled =>
      split at none
      · cases none
      · next short =>
        have absent := List.find?_eq_none.1 (Option.map_eq_none_iff.1 none)
        refine ⟨by simpa using filled, Nat.not_lt.1 short, marks.1 fun p hp hc => ?_⟩
        exact absent p hp (List.contains_iff_mem.2 hc)
  · rintro ⟨filled, short, plain⟩
    have some : ¬ name.isEmpty := by simpa using filled
    have long : ¬ maxLength < name.length := Nat.not_lt.2 short
    rw [if_neg some, if_neg long, Option.map_eq_none_iff, List.find?_eq_none]
    intro p hp hc
    exact marks.2 plain p hp (List.contains_iff_mem.1 hc)

/-- A check that fails names what it checked. -/
theorem check_cases (name : List Char) :
    (Acceptable name ∧ check name = .ok ()) ∨
      (¬ Acceptable name ∧
        ∃ reason, check name = .error (.invalidIdentifier (.ofList name) reason)) := by
  unfold check
  cases fault : fault? name with
  | none => exact .inl ⟨fault?_eq_none_iff.1 fault, rfl⟩
  | some reason =>
    refine .inr ⟨fun h => ?_, reason, rfl⟩
    rw [fault?_eq_none_iff.2 h] at fault
    cases fault

theorem check_eq_ok_iff {name : List Char} : check name = .ok () ↔ Acceptable name := by
  rcases check_cases name with ⟨h, ok⟩ | ⟨h, reason, error⟩
  · exact iff_of_true ok h
  · rw [error]
    exact iff_of_false (fun same => by cases same) h

theorem quote_eq_ok_iff {name text : List Char} :
    quote name = .ok text ↔ check name = .ok () ∧ text = ticked name := by
  unfold quote
  rw [bind_eq_ok]
  constructor
  · rintro ⟨_, ok, made⟩
    exact ⟨ok, (pure_eq_ok.1 made).symm⟩
  · rintro ⟨ok, rfl⟩
    exact ⟨(), ok, rfl⟩

theorem quote_of_acceptable {name : List Char} (h : Acceptable name) :
    quote name = .ok (ticked name) :=
  quote_eq_ok_iff.2 ⟨check_eq_ok_iff.2 h, rfl⟩

theorem quote_refused {name : List Char} (h : ¬ Acceptable name) :
    ∃ reason, quote name = .error (.invalidIdentifier (.ofList name) reason) := by
  rcases check_cases name with ⟨ok, -⟩ | ⟨-, reason, error⟩
  · exact absurd ok h
  · exact ⟨reason, by rw [quote, error]; rfl⟩

end QueryGate.Sql.Identifier
