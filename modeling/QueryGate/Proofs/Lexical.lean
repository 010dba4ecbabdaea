import QueryGate.Gate.Lexical
import QueryGate.Proofs.Text.Match
/-!
# What the lexical layer accepts

Its verdict as a condition on the text, and as a test that can be evaluated.
-/

namespace QueryGate.Gate

open QueryGate.Sql

namespace Lexical

theorem check_eq_ok_iff {text : List Char} :
    Lexical.check text = .ok () ↔
      Text.trim text ≠ [] ∧ isSingle (stripLiterals (Text.trim text)) ∧
        (∀ r ∈ rules, ¬ r.fires (Text.trim text) (stripLiterals (Text.trim text))) ∧
        beginsReadOnly (Text.trim text) := by
  unfold Lexical.check
  dsimp only
  by_cases empty : Text.trim text = []
  · simp [empty]
  by_cases single : isSingle (stripLiterals (Text.trim text)) = true
  · cases found : rules.find? (·.fires (Text.trim text) (stripLiterals (Text.trim text))) with
    | some r =>
      have fires := List.find?_some found
      simp only [List.isEmpty_iff, empty, single, if_false, Bool.not_true, Bool.false_eq_true]
      constructor
      · intro h
        cases h
      · rintro ⟨-, -, none, -⟩
        exact absurd fires (none r (List.mem_of_find?_eq_some found))
    | none =>
      have none := List.find?_eq_none.1 found
      by_cases begins : beginsReadOnly (Text.trim text) = true
      · simpa [empty, single, begins] using none
      · simp [empty, single, begins]
  · simp [empty, single]

theorem not_isSingle_of_check {text : List Char}
    (h : Lexical.check text = .error .multipleStatements) :
    ¬ isSingle (stripLiterals (Text.trim text)) := by
  unfold Lexical.check at h
  dsimp only at h
  split at h
  · cases h
  split at h
  · next several => simpa using several
  split at h
  · cases h
  split at h
  · cases h
  · cases h

/-- Whether the rule matches nothing. -/
def Rule.passes (r : Rule) (sql stripped : List Char) : Bool :=
  r.patterns.all fun p =>
    match r.reach with
    | .start => !p.begins ⟨none, sql⟩
    | .anywhere => !p.found none stripped

theorem Rule.passes_eq (r : Rule) (sql stripped : List Char) :
    r.passes sql stripped = !r.fires sql stripped := by
  rw [fires, passes, List.not_any_eq_all_not]
  cases r.reach with
  | start =>
    simp only [Text.Pattern.begins_eq]
    rfl
  | anywhere =>
    simp only [Text.Pattern.found_eq]
    rfl

/-- Whether the layer accepts a text. This is quick to evaluate, since no rule goes
on where it cannot match. -/
def passes (text : List Char) : Bool :=
  let sql := Text.trim text
  let stripped := stripLiterals sql
  !sql.isEmpty && isSingle stripped && rules.all (·.passes sql stripped) && beginsReadOnly sql

theorem passes_iff {text : List Char} : passes text ↔ check text = .ok () := by
  simp [passes, check_eq_ok_iff, Rule.passes_eq, and_assoc]

end Lexical

end QueryGate.Gate
