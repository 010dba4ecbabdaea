import QueryGate.Proofs.Text.Match
/-!
# Where a pattern splits a text

A split is at the first place where the pattern matches, and there is none only
if it matches nowhere. What stands between the two halves is what the pieces of
the pattern take, one behind the other.
-/

namespace QueryGate.Text

namespace Piece

theorem mem_one {test : Char → Bool} {s s' : Spot} :
    s' ∈ one test s ↔ ∃ c r, s.rest = c :: r ∧ test c ∧ s' = ⟨some c, r⟩ := by
  obtain ⟨before, rest⟩ := s
  cases rest with
  | nil => simp [one]
  | cons c r =>
    rw [one_cons]
    constructor
    · intro h
      split at h
      · next taken => exact ⟨c, r, rfl, taken, List.mem_singleton.1 h⟩
      · cases h
    · rintro ⟨d, r', same, taken, rfl⟩
      obtain ⟨rfl, rfl⟩ := List.cons.inj same
      rw [if_pos taken]
      exact List.mem_singleton.2 rfl

/-- Any of the blanks in front may be passed over. -/
theorem mem_blankRuns {before : Option Char} {rest : List Char} {s' : Spot} :
    s' ∈ blankRuns before rest ↔
      ∃ lead r, rest = lead ++ r ∧ allBlank lead ∧ s' = ⟨lead.getLast?.or before, r⟩ := by
  induction rest generalizing before with
  | nil =>
    rw [blankRuns, List.mem_singleton]
    constructor
    · rintro rfl
      exact ⟨[], [], rfl, rfl, rfl⟩
    · rintro ⟨lead, r, none, -, rfl⟩
      obtain ⟨rfl, rfl⟩ := List.append_eq_nil_iff.1 none.symm
      rfl
  | cons c rest ih =>
    rw [blankRuns, List.mem_cons]
    constructor
    · rintro (rfl | later)
      · exact ⟨[], c :: rest, rfl, rfl, rfl⟩
      · split at later
        · next blank =>
          obtain ⟨lead, r, rfl, blanks, rfl⟩ := ih.1 later
          refine ⟨c :: lead, r, rfl, ?_, by rw [last_cons]⟩
          simpa [allBlank, blank] using blanks
        · cases later
    · rintro ⟨lead, r, same, blanks, rfl⟩
      cases lead with
      | nil =>
        left
        rw [List.nil_append] at same
        rw [← same]
        rfl
      | cons d lead =>
        right
        obtain ⟨rfl, rfl⟩ := List.cons.inj same
        rw [allBlank, List.all_cons, Bool.and_eq_true] at blanks
        rw [if_pos blanks.1]
        exact ih.2 ⟨lead, r, rfl, blanks.2, by rw [last_cons]⟩

theorem one_step {test : Char → Bool} {c : Char} (h : test c) (before : Option Char)
    (r : List Char) : ⟨some c, r⟩ ∈ one test ⟨before, c :: r⟩ :=
  mem_one.2 ⟨c, r, rfl, h, rfl⟩

theorem blanks_step {lead : List Char} (h : allBlank lead) (before : Option Char)
    (r : List Char) : ⟨lead.getLast?.or before, r⟩ ∈ blankRuns before (lead ++ r) :=
  mem_blankRuns.2 ⟨lead, r, rfl, h, rfl⟩

end Piece

namespace Pattern

theorem mem_ends_nil {s s' : Spot} : s' ∈ ends [] s ↔ s' = s := List.mem_singleton

theorem mem_ends_cons {piece : Piece} {p : Pattern} {s s' : Spot} :
    s' ∈ ends (piece :: p) s ↔ ∃ t ∈ piece.ends s, s' ∈ ends p t := by
  rw [ends_cons, List.mem_flatMap]

theorem splitAfter_eq_none {p : Pattern} {before : Option Char} {s : List Char} :
    p.splitAfter before s = none ↔
      ∀ a r, s = a ++ r → p.ends ⟨a.getLast?.or before, r⟩ = [] := by
  induction s generalizing before with
  | nil =>
    rw [splitAfter, Option.map_eq_none_iff, List.head?_eq_none_iff]
    constructor
    · intro none a r same
      obtain ⟨rfl, rfl⟩ := List.append_eq_nil_iff.1 same.symm
      exact none
    · intro none
      exact none [] [] rfl
  | cons c s ih =>
    rw [splitAfter]
    constructor
    · intro none a r same
      cases here : (p.ends ⟨before, c :: s⟩).head? with
      | some s' => simp [here] at none
      | none =>
        cases a with
        | nil =>
          rw [List.nil_append] at same
          rw [← same]
          exact List.head?_eq_none_iff.1 here
        | cons d a =>
          obtain ⟨rfl, rfl⟩ := List.cons.inj same
          rw [here, Option.map_eq_none_iff] at none
          rw [last_cons]
          exact ih.1 none a r rfl
    · intro none
      have here := none [] (c :: s) rfl
      have later : p.splitAfter (some c) s = Option.none :=
        ih.2 fun a r same => by
          rw [← last_cons before]
          exact none (c :: a) r (by rw [same]; rfl)
      have first : p.ends ⟨before, c :: s⟩ = [] := here
      rw [first, later]
      rfl

/-- The first half ends where the pattern matches for the first time, and the
second half begins behind the match. -/
theorem of_splitAfter {p : Pattern} {before : Option Char} {s a b : List Char}
    (h : p.splitAfter before s = some (a, b)) :
    ∃ r s', s = a ++ r ∧ s' ∈ p.ends ⟨a.getLast?.or before, r⟩ ∧ s'.rest = b ∧
      ∀ a' r', s = a' ++ r' → a'.length < a.length →
        p.ends ⟨a'.getLast?.or before, r'⟩ = [] := by
  induction s generalizing before a with
  | nil =>
    rw [splitAfter, Option.map_eq_some_iff] at h
    obtain ⟨s', first, same⟩ := h
    cases same
    exact ⟨[], s', rfl, List.mem_of_head? first, rfl, by simp⟩
  | cons c s ih =>
    rw [splitAfter] at h
    cases here : (p.ends ⟨before, c :: s⟩).head? with
    | some s' =>
      rw [here] at h
      cases h
      exact ⟨c :: s, s', rfl, List.mem_of_head? here, rfl, by simp⟩
    | none =>
      rw [here, Option.map_eq_some_iff] at h
      obtain ⟨⟨a, b⟩, later, same⟩ := h
      cases same
      obtain ⟨r, s', rfl, found, behind, earlier⟩ := ih later
      refine ⟨r, s', rfl, by rwa [last_cons], behind, fun a' r' same short => ?_⟩
      cases a' with
      | nil =>
        rw [List.nil_append] at same
        rw [← same]
        exact List.head?_eq_none_iff.1 here
      | cons d a' =>
        obtain ⟨rfl, same'⟩ := List.cons.inj same
        rw [last_cons]
        exact earlier a' r' same' (by simpa using short)

end Pattern

end QueryGate.Text
