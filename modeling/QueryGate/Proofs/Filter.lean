import Mathlib.Combinatorics.Enumerative.DyckWord
import Mathlib.Data.List.Find
import QueryGate.Gate.Fragment
import QueryGate.Proofs.Outside
import QueryGate.Proofs.Stacking
import QueryGate.Proofs.Text.Seam
/-!
# Filters that pass

A filter passes if it is short, and outside its literals has no forbidden pattern
and parentheses in pairs. The scan that counts parentheses and stops at one too
many is the condition that defines Dyck words. All of this is about the text
without its literals, of which marks and blanks cut patterns off: so what literals
contain is not looked at, and filters that pass can be put together with `AND`.
-/

namespace QueryGate.Gate.Fragment

open Sql (Closed Quote outside stripLiterals)
open Text (Pattern allBlank isBlank trim)

/-! ## Parentheses -/

/-- An opening parenthesis is a step up, a closing one a step down. -/
def parenthesis? (c : Char) : Option DyckStep :=
  if c = '(' then some .U else if c = ')' then some .D else none

def parentheses (s : List Char) : List DyckStep := s.filterMap parenthesis?

theorem parentheses_append (s t : List Char) :
    parentheses (s ++ t) = parentheses s ++ parentheses t :=
  List.filterMap_append

theorem depthAfter_opening (depth : Nat) (s : List Char) :
    depthAfter depth ('(' :: s) = depthAfter (depth + 1) s := by
  cases depth <;> rfl

theorem depthAfter_closing (depth : Nat) (s : List Char) :
    depthAfter (depth + 1) (')' :: s) = depthAfter depth s := rfl

theorem depthAfter_other {c : Char} (opens : c ≠ '(') (closes : c ≠ ')') (depth : Nat)
    (s : List Char) : depthAfter depth (c :: s) = depthAfter depth s := by
  cases depth <;> simp only [depthAfter, opens, closes, if_false]

/-- No prefix of the steps goes below the ground that they begin at. -/
def StaysUp (ground : Nat) (steps : List DyckStep) : Prop :=
  ∀ i, (steps.take i).count .D ≤ ground + (steps.take i).count .U

theorem staysUp_cons {ground : Nat} (behind : Nat) {step : DyckStep} {steps : List DyckStep}
    (h : behind + [step].count .D = ground + [step].count .U) :
    StaysUp ground (step :: steps) ↔ StaysUp behind steps := by
  have count (x : DyckStep) (i : Nat) :
      ((step :: steps).take (i + 1)).count x = [step].count x + (steps.take i).count x := by
    rw [List.take_succ_cons, ← List.singleton_append, List.count_append]
  constructor
  · intro up i
    have level := up (i + 1)
    rw [count, count] at level
    omega
  · intro up i
    cases i with
    | zero => simp
    | succ i =>
      have level := up i
      rw [count, count]
      omega

theorem not_staysUp_down {steps : List DyckStep} : ¬ StaysUp 0 (.D :: steps) := by
  intro up
  have first := up 1
  simp at first

/-- The scan goes on as long as no more is closed than was open. -/
theorem depthAfter_eq_some_iff {depth n : Nat} {s : List Char} :
    depthAfter depth s = some n ↔ StaysUp depth (parentheses s) ∧
      n + (parentheses s).count .D = depth + (parentheses s).count .U := by
  induction s generalizing depth with
  | nil => simp [depthAfter, parentheses, StaysUp, eq_comm]
  | cons c s ih =>
    by_cases opens : c = '('
    · have step : parentheses (c :: s) = .U :: parentheses s := by
        simp [parentheses, parenthesis?, opens]
      rw [step, staysUp_cons (depth + 1) rfl, opens, depthAfter_opening, ih]
      simp
      omega
    by_cases closes : c = ')'
    · have step : parentheses (c :: s) = .D :: parentheses s := by
        simp [parentheses, parenthesis?, closes]
      rw [step, closes]
      cases depth with
      | zero => exact iff_of_false (by simp [depthAfter]) fun h => not_staysUp_down h.1
      | succ depth =>
        rw [depthAfter_closing, staysUp_cons depth rfl, ih]
        simp
        omega
    · have step : parentheses (c :: s) = parentheses s := by
        simp [parentheses, parenthesis?, opens, closes]
      rw [step, depthAfter_other opens closes, ih]

/-- What the scan accepts are the Dyck words. -/
theorem depthAfter_zero_iff {s : List Char} :
    depthAfter 0 s = some 0 ↔ ∃ word : DyckWord, word.toList = parentheses s := by
  rw [depthAfter_eq_some_iff]
  constructor
  · rintro ⟨up, level⟩
    exact ⟨⟨parentheses s, by omega, fun i => by simpa using up i⟩, rfl⟩
  · rintro ⟨word, same⟩
    rw [← same]
    refine ⟨fun i => ?_, ?_⟩
    · simpa using word.count_D_le_count_U i
    · have level := word.count_U_eq_count_D
      omega

theorem parenthesis?_mark (q : Quote) : parenthesis? q.char = none := by cases q <;> rfl

theorem parentheses_blank {s : List Char} (h : allBlank s) : parentheses s = [] := by
  refine List.filterMap_eq_nil_iff.2 fun c hc => ?_
  have blank := Text.allBlank_iff.1 h c hc
  unfold parenthesis?
  split
  · next opens => subst opens; cases blank
  split
  · next closes => subst closes; cases blank
  · rfl

/-! ## Patterns -/

/-- No forbidden pattern occurs. -/
def Quiet (s : List Char) : Prop := ∀ p ∈ filterPatterns, ¬ p.1.occurs s

def conjunction : List Char := " AND ".toList

/-- What the forbidden patterns have in common. A match ends with a character that is
no blank, it takes no mark and begins with none, it does not begin in a conjunction,
and it goes past a blank only in front of a sign at its end. -/
theorem shape_of_mem : ∀ p ∈ filterPatterns,
    p.1.solid ∧
      (∀ q ∈ [Quote.single, .double, .backtick], p.1.barred none [q.char] ∧
        ∀ piece ∈ p.1, piece.takes q.char = false) ∧
      p.1.barred none conjunction ∧
      ∃ rest ∈ [[], Pattern.gapBefore '(', Pattern.gapBefore '.'],
        p.1 = p.1.take (p.1.length - rest.length) ++ rest ∧
          ∀ piece ∈ p.1.take (p.1.length - rest.length), piece.takes ' ' = false := by
  decide +kernel

theorem not_occurs_blank {p : Pattern × String} (hp : p ∈ filterPatterns) {s : List Char}
    (h : allBlank s) : ¬ p.1.occurs s := by
  rw [Pattern.occurs, Pattern.split, Pattern.splitAfter_blank (shape_of_mem p hp).1 h]
  simp

/-- A mark cuts a text in two. -/
theorem occurs_mark {p : Pattern × String} (hp : p ∈ filterPatterns) (q : Quote)
    (s t : List Char) : p.1.occurs (s ++ q.char :: t) ↔ p.1.occurs s ∨ p.1.occurs t := by
  obtain ⟨solid, marks, -⟩ := shape_of_mem p hp
  obtain ⟨barred, takes⟩ := marks q (by cases q <;> simp)
  have word : (q.char :: t).head?.any Text.isWordChar = false := by cases q <;> rfl
  have last : [q.char].getLast?.any Text.isWordChar = false := by cases q <;> rfl
  have halts : p.1.Halts (q.char :: t) :=
    (Pattern.blind_of_takes takes t).ends_append word
  rw [Pattern.occurs_append_iff solid halts, ← List.singleton_append,
    Pattern.occurs_barred barred last]

/-- So does a conjunction. -/
theorem occurs_conjunction {p : Pattern × String} (hp : p ∈ filterPatterns) (s t : List Char) :
    p.1.occurs (s ++ (conjunction ++ t)) ↔ p.1.occurs s ∨ p.1.occurs t := by
  obtain ⟨solid, -, barred, rest, known, same, skip⟩ := shape_of_mem p hp
  have word : (conjunction ++ t).head?.any Text.isWordChar = false := rfl
  have other {mark : Char} (h : Text.sameLetter mark 'A' = false) :
      ∀ c ∈ (Text.trimStart (conjunction ++ t)).head?, Text.sameLetter mark c = false := by
    intro c hc
    obtain rfl : 'A' = c := Option.some.inj hc
    exact h
  have halts : p.1.Halts (conjunction ++ t) := by
    rw [same]
    refine Pattern.Halts.append ?_ word fun piece hpiece c hc => ?_
    · simp only [List.mem_cons, List.not_mem_nil, or_false] at known
      obtain rfl | rfl | rfl := known
      · exact Pattern.halts_nil _
      · exact Pattern.halts_gapBefore rfl (other rfl)
      · exact Pattern.halts_gapBefore rfl (other rfl)
    · obtain rfl : ' ' = c := Option.some.inj hc
      exact skip piece hpiece
  rw [Pattern.occurs_append_iff solid halts, Pattern.occurs_barred barred rfl]

/-! ## Texts that pass -/

theorem checkFilter_eq_ok_iff {w : List Char} :
    checkFilter w = .ok () ↔ w.length ≤ 1000 ∧
      (allBlank w ∨ Quiet (stripLiterals w) ∧ depthAfter 0 (stripLiterals w) = some 0) := by
  have quiet : (filterPatterns.find? fun x => x.1.occurs (stripLiterals w)) = none ↔
      Quiet (stripLiterals w) := by
    simp only [List.find?_eq_none, Quiet]
  unfold checkFilter
  dsimp only
  by_cases long : maxFilterLength < w.length
  · have excess : ¬ w.length ≤ 1000 := Nat.not_le.2 long
    simp [long, excess]
  have short : w.length ≤ 1000 := Nat.not_lt.1 long
  rw [if_neg long]
  by_cases blank : allBlank w
  · rw [if_pos (List.isEmpty_iff.2 (Text.trim_eq_nil.2 blank))]
    simp [blank, short]
  have some : ¬ (trim w).isEmpty := by
    rw [List.isEmpty_iff]
    exact mt Text.trim_eq_nil.1 blank
  rw [if_neg some]
  split
  · next found =>
    have loud : ¬ Quiet (stripLiterals w) := by
      rw [← quiet, found]
      simp
    simp [blank, loud]
  · next none => simp [blank, short, quiet.1 none]

theorem passes_blank {w : List Char} (h : allBlank w) :
    Quiet (stripLiterals w) ∧ depthAfter 0 (stripLiterals w) = some 0 := by
  rw [Sql.stripLiterals_unmarked (unmarked_blank h)]
  refine ⟨fun p hp => not_occurs_blank hp h, depthAfter_zero_iff.2 ⟨0, ?_⟩⟩
  rw [parentheses_blank h]
  rfl

/-- Blank filters need no case of their own. -/
theorem passes_of_checkFilter {w : List Char} (h : checkFilter w = .ok ()) :
    Quiet (stripLiterals w) ∧ depthAfter 0 (stripLiterals w) = some 0 := by
  obtain ⟨-, blank | passes⟩ := checkFilter_eq_ok_iff.1 h
  · exact passes_blank blank
  · exact passes

/-! ## Conjunctions -/

theorem stripLiterals_conjunction {s : List Char} (h : Closed s) (t : List Char) :
    stripLiterals (s ++ conjunction ++ t) =
      stripLiterals s ++ (conjunction ++ stripLiterals t) := by
  obtain ⟨ps, parts, closed⟩ := h
  have first : (conjunction ++ t).head? = some ' ' := rfl
  have next (q : Quote) : (conjunction ++ t).head? ≠ some q.char := by
    rw [first]
    cases q <;> decide
  have live : Sql.Unmarked conjunction := by decide
  rw [List.append_assoc, (parts.stripLiterals_append_iff closed _).2 fun q _ _ => next q,
    Sql.stripLiterals_append (Sql.blanked_lead live t), Sql.stripLiterals_unmarked live]

theorem passes_conjunction {s t : List Char}
    (hs : Quiet s ∧ depthAfter 0 s = some 0) (ht : Quiet t ∧ depthAfter 0 t = some 0) :
    Quiet (s ++ (conjunction ++ t)) ∧ depthAfter 0 (s ++ (conjunction ++ t)) = some 0 := by
  refine ⟨fun p hp => ?_, ?_⟩
  · rw [occurs_conjunction hp, not_or]
    exact ⟨hs.1 p hp, ht.1 p hp⟩
  · obtain ⟨front, hf⟩ := depthAfter_zero_iff.1 hs.2
    obtain ⟨back, hb⟩ := depthAfter_zero_iff.1 ht.2
    have none : parentheses conjunction = [] := by decide
    refine depthAfter_zero_iff.2 ⟨front + back, ?_⟩
    rw [parentheses_append, parentheses_append, none, List.nil_append, ← hf, ← hb]
    rfl

/-! ## What literals contain -/

theorem allBlank_blanks (s : List Char) : allBlank (Sql.blanks s) := by
  simp [Sql.blanks, allBlank, isBlank]

/-- Marks cut a text into the same pieces, whatever is between them. -/
theorem occurs_outside {p : Pattern × String} (hp : p ∈ filterPatterns) (s front : List Char) :
    p.1.occurs (front ++ stripLiterals s) ↔ p.1.occurs (front ++ outside s) := by
  have nothing : ¬ p.1.occurs [] := not_occurs_blank hp rfl
  have blank (s : List Char) : ¬ p.1.occurs (Sql.blanks s) :=
    not_occurs_blank hp (allBlank_blanks s)
  obtain ⟨ps, parts⟩ := Sql.exists_parts s
  induction parts generalizing front with
  | nil => rfl
  | @live c ps s hc _ ih =>
    rw [Sql.stripLiterals_live hc, Sql.outside_live hc]
    simpa using ih (front ++ [c])
  | @closed q inner s ps content next _ ih =>
    have first := occurs_mark hp q [] (outside s)
    rw [List.nil_append, or_iff_right nothing] at first
    rw [Sql.stripLiterals_closed content next, Sql.outside_closed content next, List.cons_append,
      occurs_mark hp, occurs_mark hp, or_iff_right (blank inner), occurs_mark hp, first]
    exact or_congr_right (ih [])
  | @unclosed q inner unclosed =>
    rw [Sql.stripLiterals_unclosed unclosed, Sql.outside_unclosed unclosed, occurs_mark hp,
      occurs_mark hp, or_iff_left (blank inner), or_iff_left nothing]

theorem parentheses_outside (s : List Char) :
    parentheses (stripLiterals s) = parentheses (outside s) := by
  have mark (q : Quote) (s : List Char) : parentheses (q.char :: s) = parentheses s :=
    List.filterMap_cons_none (parenthesis?_mark q)
  obtain ⟨ps, parts⟩ := Sql.exists_parts s
  induction parts with
  | nil => rfl
  | @live c ps s hc _ ih =>
    have front (s : List Char) : parentheses (c :: s) = parentheses [c] ++ parentheses s :=
      parentheses_append [c] s
    rw [Sql.stripLiterals_live hc, Sql.outside_live hc, front (stripLiterals s), front (outside s),
      ih]
  | @closed q inner s ps content next _ ih =>
    rw [Sql.stripLiterals_closed content next, Sql.outside_closed content next,
      parentheses_append, mark, mark, mark, mark, parentheses_blank (allBlank_blanks inner), ih]
    rfl
  | @unclosed q inner unclosed =>
    rw [Sql.stripLiterals_unclosed unclosed, Sql.outside_unclosed unclosed, mark, mark,
      parentheses_blank (allBlank_blanks inner)]
    rfl

theorem allBlank_outside (s : List Char) : allBlank (outside s) = allBlank s := by
  obtain ⟨ps, parts⟩ := Sql.exists_parts s
  have visible (q : Quote) : isBlank q.char = false := by cases q <;> rfl
  induction parts with
  | nil => rfl
  | @live c ps s hc _ ih =>
    rw [Sql.outside_live hc]
    simpa [allBlank] using congrArg (isBlank c && ·) ih
  | @closed q inner s ps content next _ _ =>
    rw [Sql.outside_closed content next]
    simp [allBlank, visible]
  | @unclosed q inner unclosed =>
    rw [Sql.outside_unclosed unclosed]
    simp [allBlank, visible]

/-- The verdict on a filter is a verdict on what is outside its literals. -/
theorem checkFilter_congr {s t : List Char} (same : outside s = outside t)
    (length : s.length = t.length ∨ s.length ≤ 1000 ∧ t.length ≤ 1000) :
    checkFilter s = checkFilter t := by
  have empty : (trim s).isEmpty = (trim t).isEmpty := by
    rw [Bool.eq_iff_iff, List.isEmpty_iff, List.isEmpty_iff, Text.trim_eq_nil, Text.trim_eq_nil,
      ← allBlank_outside s, same, allBlank_outside]
  have found : (filterPatterns.find? fun x => x.1.occurs (stripLiterals s)) =
      filterPatterns.find? fun x => x.1.occurs (stripLiterals t) := by
    refine List.find?_congr fun p hp => ?_
    have here := occurs_outside hp s []
    rw [same, ← occurs_outside hp t []] at here
    exact Bool.eq_iff_iff.2 here
  have depth : depthAfter 0 (stripLiterals s) = some 0 ↔ depthAfter 0 (stripLiterals t) = some 0 := by
    rw [depthAfter_zero_iff, depthAfter_zero_iff, parentheses_outside, same, parentheses_outside]
  unfold checkFilter
  dsimp only
  rw [empty, found]
  simp only [depth]
  obtain equal | ⟨short, short'⟩ := length
  · rw [equal]
  · have limit {n : Nat} (h : n ≤ 1000) : ¬ maxFilterLength < n := Nat.not_lt.2 h
    rw [if_neg (limit short), if_neg (limit short')]

/-! ## Filters -/

/-- A filter is accepted if it is short enough and blank, or has no forbidden pattern
and its parentheses make a Dyck word, both in the stripped text. What is in its
literals has no part in this, and closed filters that are accepted can be joined. -/
theorem filter_passes_iff (w : List Char) :
    (checkFilter w = .ok () ↔ w.length ≤ 1000 ∧
      (allBlank w ∨ (∀ p ∈ filterPatterns, ¬ p.1.occurs (stripLiterals w)) ∧
        ∃ word : DyckWord, word.toList = parentheses (stripLiterals w))) ∧
    (∀ other, outside other = outside w →
      (other.length = w.length ∨ other.length ≤ 1000 ∧ w.length ≤ 1000) →
      checkFilter other = checkFilter w) ∧
    (∀ other, Closed w → Closed other → checkFilter w = .ok () → checkFilter other = .ok () →
      (w ++ " AND ".toList ++ other).length ≤ 1000 →
      checkFilter (w ++ " AND ".toList ++ other) = .ok ()) := by
  refine ⟨?_, ?_, ?_⟩
  · rw [checkFilter_eq_ok_iff, depthAfter_zero_iff]
    rfl
  · exact fun other same length => checkFilter_congr same length
  · intro other closed _ passes passes' short
    refine checkFilter_eq_ok_iff.2 ⟨short, .inr ?_⟩
    have joined : stripLiterals (w ++ " AND ".toList ++ other) =
        stripLiterals w ++ (conjunction ++ stripLiterals other) :=
      stripLiterals_conjunction closed other
    rw [joined]
    exact passes_conjunction (passes_of_checkFilter passes) (passes_of_checkFilter passes')

/-- Parentheses in literals need no partners, and are none for those outside. -/
theorem filter_passes_iff_quoted :
    outside "a = '(x('".toList = outside "a = ')'".toList ∧
      checkFilter "a = '(x('".toList = checkFilter "a = ')'".toList ∧
      Closed "a = ')'".toList ∧ Closed "(b < '2')".toList ∧
      checkFilter "a = ')' AND (b < '2')".toList = .ok () :=
  have same : outside "a = '(x('".toList = outside "a = ')'".toList := by decide
  have closed : Closed "a = ')'".toList := by decide
  have closed' : Closed "(b < '2')".toList := by decide
  have passes : checkFilter "a = ')'".toList = .ok () := by decide +kernel
  have passes' : checkFilter "(b < '2')".toList = .ok () := by decide +kernel
  have whole : "a = ')' AND (b < '2')".toList =
      "a = ')'".toList ++ " AND ".toList ++ "(b < '2')".toList := by
    decide +kernel
  ⟨same, (filter_passes_iff _).2.1 _ same (.inr (by decide)), closed, closed',
    whole ▸ (filter_passes_iff _).2.2 _ closed closed' passes passes' (by decide)⟩

end QueryGate.Gate.Fragment
