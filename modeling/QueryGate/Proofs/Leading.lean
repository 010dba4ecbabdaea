import QueryGate.Proofs.Layers
import QueryGate.Proofs.Stacking
import QueryGate.Proofs.Text.Case
/-!
# Rules about the first word

A rule that looks at the beginning of a text finds a word there that no reading
statement begins with. So it never turns a text away that would have passed: it
says why a text is refused that the last question of the lexical layer, how the
text begins, would refuse anyway. `accepts_iff` says what is left to ask.

The two questions do not read letters alike. A rule takes the Kelvin sign for a
K, and capitals leave it as it is; capitals write the sharp s as two letters, and
no rule takes it for one. What they have in common is `upperChar_of_sameLetter`.
-/

namespace QueryGate.Text

/-- The capital of what matches a letter is the capital of the letter, unless it
is the Kelvin sign. -/
theorem upperChar_of_sameLetter {a c : Char} (ascii : a.toNat < 128) (h : sameLetter a c) :
    upperChar c = [a.toUpper] ∨ c = '\u212A' := by
  have capital : upperChar a = [a.toUpper] := if_pos ascii
  simp only [sameLetter, Bool.or_eq_true, Bool.and_eq_true, beq_iff_eq] at h
  rcases h with (same | ⟨letter, rfl⟩) | ⟨-, rfl⟩
  · left
    rw [← upperChar_toLower c, ← same, upperChar_toLower, capital]
  · left
    rw [← capital, ← upperChar_toLower a, letter]
    decide
  · right
    rfl

namespace Pattern

/-- Whether the letters a pattern begins with and a word in capitals differ
before either of them ends. -/
def departs : Pattern → List Char → Bool
  | .char a :: p, x :: w => a.toNat < 128 && x.toNat < 128 && (a.toUpper != x || departs p w)
  | _, _ => false

/-- A text on which such a pattern matches does not begin with the word. -/
theorem not_prefix_of_departs {p : Pattern} {w : List Char} (h : p.departs w)
    {before : Option Char} {s : List Char} (hit : p.ends ⟨before, s⟩ ≠ []) : ¬ w <+: upper s := by
  fun_induction departs p w generalizing before s with
  | case1 a p x w ih =>
    simp only [Bool.and_eq_true, decide_eq_true_eq, Bool.or_eq_true, bne_iff_ne] at h
    obtain ⟨⟨ascii, ascii'⟩, apart⟩ := h
    rw [ends_cons] at hit
    cases s with
    | nil => exact absurd rfl hit
    | cons c s =>
      rw [Piece.ends, Piece.one_cons] at hit
      split at hit
      · next same =>
        rw [List.flatMap_singleton] at hit
        have first : upper (c :: s) = upperChar c ++ upper s := List.flatMap_cons
        intro begins
        rw [first] at begins
        rcases upperChar_of_sameLetter ascii same with capital | rfl
        · rw [capital, List.singleton_append, List.cons_prefix_cons] at begins
          rcases apart with other | later
          · exact other begins.1.symm
          · exact ih later hit begins.2
        · -- The Kelvin sign stays what it is, and the word has none.
          have kept : upperChar '\u212A' = ['\u212A'] := by decide
          rw [kept, List.singleton_append, List.cons_prefix_cons] at begins
          rw [begins.1] at ascii'
          exact absurd ascii' (by decide)
      · exact absurd rfl hit
  | case2 => cases h

end Pattern

end QueryGate.Text

namespace QueryGate.Gate.Lexical

open Sql (stripLiterals)
open Text (allBlank isBlank trim upper Pattern)

/-- Every pattern at the beginning departs from every word of a reading
statement. -/
theorem departs_of_start : ∀ r ∈ rules, r.reach = .start → ∀ p ∈ r.patterns,
    ∀ w ∈ readOnlyWords, p.head? = some .blanks ∧ Pattern.departs p.tail w.toList := by
  decide +kernel

/-- In front of what is no blank there are no blanks to pass over. -/
theorem ends_blanks {sql : List Char} (visible : ∀ c ∈ sql.head?, isBlank c = false)
    (p : Pattern) : Pattern.ends (.blanks :: p) ⟨none, sql⟩ = p.ends ⟨none, sql⟩ := by
  have none_passed : Text.Piece.blankRuns none sql = [⟨none, sql⟩] := by
    cases sql with
    | nil => rfl
    | cons c sql => simp [Text.Piece.blankRuns, visible c rfl]
  rw [Pattern.ends_cons, Text.Piece.ends, none_passed, List.flatMap_singleton]

/-- No rule about the first word matches what begins like a read. -/
theorem not_fires_of_begins {r : Rule} (hr : r ∈ rules) (start : r.reach = .start)
    {sql : List Char} (visible : ∀ c ∈ sql.head?, isBlank c = false)
    (reads : beginsReadOnly sql) (stripped : List Char) : ¬ r.fires sql stripped := by
  intro fires
  obtain ⟨w, hw, begins⟩ := List.any_eq_true.1 reads
  obtain ⟨p, hp, hit⟩ := List.any_eq_true.1 fires
  obtain ⟨blanks, departs⟩ := departs_of_start r hr start p hp w hw
  obtain ⟨q, rfl⟩ := List.head?_eq_some_iff.1 blanks
  have found : Pattern.ends (.blanks :: q) ⟨none, sql⟩ ≠ [] := by
    simpa [start, Pattern.matchesStart] using hit
  rw [ends_blanks visible] at found
  exact Pattern.not_prefix_of_departs departs found (Text.beginsWith_iff.1 begins)

/-- What passes: a text that is not blank, has no semicolon before its last
visible character outside its literals, matches no rule that looks anywhere, and
begins in capitals with a word of a reading statement. The rules about the first
word have no part in it. -/
theorem accepts_iff (text : List Char) :
    check text = .ok () ↔
      trim text ≠ [] ∧
      (∀ pre post, stripLiterals (trim text) = pre ++ ';' :: post → allBlank post) ∧
      (∀ r ∈ rules, r.reach = .anywhere →
        ∀ p ∈ r.patterns, ¬ p.occurs (stripLiterals (trim text))) ∧
      ∃ w ∈ readOnlyWords, w.toList <+: upper (trim text) := by
  have begins : beginsReadOnly (trim text) ↔
      ∃ w ∈ readOnlyWords, w.toList <+: upper (trim text) := by
    simp only [beginsReadOnly, List.any_eq_true, Text.beginsWith_iff]
  rw [check_eq_ok_iff, isSingle_iff, begins]
  refine and_congr_right fun _ => and_congr_right fun _ => and_congr_left fun reads => ?_
  constructor
  · intro quiet r hr anywhere p hp found
    apply quiet r hr
    simp only [Rule.fires, anywhere, List.any_eq_true]
    exact ⟨p, hp, found⟩
  · intro quiet r hr
    cases reach : r.reach with
    | start => exact not_fires_of_begins hr reach (Text.head_trim text) (begins.2 reads) _
    | anywhere =>
      intro fires
      simp only [Rule.fires, reach, List.any_eq_true] at fires
      obtain ⟨p, hp, found⟩ := fires
      exact quiet r hr reach p hp found

end QueryGate.Gate.Lexical
