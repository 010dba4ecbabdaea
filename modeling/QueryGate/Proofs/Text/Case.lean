import QueryGate.Proofs.Text.Cut
import QueryGate.Proofs.Text.Match
/-!
# Texts in small letters

Two texts differ in the case of ASCII letters only if they are the same text once
all of it is written small. So for each function on texts there is one fact: what
it makes of the text written small is what it makes of the text, written small.
-/

namespace QueryGate.Text

/-- The text with its ASCII letters small. -/
def small (s : List Char) : List Char := s.map Char.toLower

theorem small_cons (c : Char) (s : List Char) : small (c :: s) = c.toLower :: small s := rfl

theorem small_append (s t : List Char) : small (s ++ t) = small s ++ small t := List.map_append

/-- Texts that differ in the case of ASCII letters only. -/
abbrev SameLetters (s t : List Char) : Prop := small s = small t

theorem sameAscii_iff {s t : List Char} : sameAscii s t ↔ SameLetters s t := beq_iff_eq

theorem SameLetters.append {a b c d : List Char} (h : SameLetters a b) (h' : SameLetters c d) :
    SameLetters (a ++ c) (b ++ d) := by
  rw [SameLetters, small_append, small_append, h, h']

/-! ## Characters -/

/-- Only the capitals change. -/
theorem toLower_cases (c : Char) : c.toLower = c ∨ ∃ n : Fin 26, c = .ofNat (65 + n) := by
  by_cases ascii : c.toNat < 128
  · obtain ⟨n, rfl⟩ := exists_ofNat ascii
    revert n
    decide
  · exact .inl (Piece.toLower_wide ascii)

theorem toLower_toLower (c : Char) : c.toLower.toLower = c.toLower := by
  rcases toLower_cases c with same | ⟨n, rfl⟩
  · rw [same, same]
  · revert n
    decide

/-- What is no letter is the small form of itself and of nothing else. -/
theorem toLower_eq_iff {x : Char} (h : x.isAlpha = false) {c : Char} : c.toLower = x ↔ c = x := by
  rcases toLower_cases c with same | ⟨n, rfl⟩
  · rw [same]
  · have letters : ∀ n : Fin 26, (Char.ofNat (65 + n)).isAlpha ∧
        (Char.ofNat (65 + n)).toLower.isAlpha := by
      decide
    constructor
    · rintro rfl
      rw [(letters n).2] at h
      cases h
    · rintro rfl
      rw [(letters n).1] at h
      cases h

@[simp] theorem isBlank_toLower (c : Char) : isBlank c.toLower = isBlank c := by
  rcases toLower_cases c with same | ⟨n, rfl⟩
  · rw [same]
  · revert n
    decide

@[simp] theorem isWordChar_toLower (c : Char) : isWordChar c.toLower = isWordChar c := by
  rcases toLower_cases c with same | ⟨n, rfl⟩
  · rw [same]
  · revert n
    decide +kernel

@[simp] theorem isHexDigit_toLower (c : Char) : Piece.isHexDigit c.toLower = Piece.isHexDigit c := by
  rcases toLower_cases c with same | ⟨n, rfl⟩
  · rw [same]
  · revert n
    decide

@[simp] theorem sameLetter_toLower (a c : Char) : sameLetter a c.toLower = sameLetter a c := by
  have wide (x : Char) (h : x.isAlpha = false) : (c.toLower == x) = (c == x) := by
    rw [Bool.eq_iff_iff, beq_iff_eq, beq_iff_eq, toLower_eq_iff h]
  simp only [sameLetter, toLower_toLower, wide 'ſ' rfl, wide '\u212A' rfl]

@[simp] theorem upperChar_toLower (c : Char) : upperChar c.toLower = upperChar c := by
  rcases toLower_cases c with same | ⟨n, rfl⟩
  · rw [same]
  · revert n
    decide

/-! ## Whole texts -/

theorem mem_small {x : Char} (h : x.isAlpha = false) {s : List Char} : x ∈ small s ↔ x ∈ s := by
  simp only [small, List.mem_map, toLower_eq_iff h]
  simp

theorem small_small (s : List Char) : small (small s) = small s := by
  simp only [small, List.map_map, Function.comp_def, toLower_toLower]

theorem small_eq_singleton {x : Char} (h : x.isAlpha = false) {s : List Char} :
    small s = [x] ↔ s = [x] := by
  rw [small, List.map_eq_singleton_iff]
  simp only [toLower_eq_iff h, exists_eq_right]

@[simp] theorem upper_small (s : List Char) : upper (small s) = upper s := by
  simp [upper, small, List.flatMap_map]

theorem trimStart_small (s : List Char) : trimStart (small s) = small (trimStart s) := by
  simp [trimStart, small, List.dropWhile_map, Function.comp_def]

theorem trimEnd_small (s : List Char) : trimEnd (small s) = small (trimEnd s) := by
  simp [trimEnd, small, ← List.map_reverse, List.dropWhile_map, Function.comp_def]

theorem trim_small (s : List Char) : trim (small s) = small (trim s) := by
  rw [trim, trimStart_small, trimEnd_small, trim]

/-! ## Texts at a separator -/

section Separator

variable {sep : Char}

theorem cutFirst_small (h : sep.isAlpha = false) (s : List Char) :
    cutFirst sep (small s) = (cutFirst sep s).map (Prod.map small small) := by
  induction s with
  | nil => rfl
  | cons c s ih =>
    rw [small_cons, cutFirst, cutFirst]
    by_cases here : c = sep
    · rw [if_pos here, if_pos ((toLower_eq_iff h).2 here)]
      rfl
    · rw [if_neg here, if_neg (mt (toLower_eq_iff h).1 here), ih]
      cases cutFirst sep s <;> rfl

theorem pieces_small (h : sep.isAlpha = false) (s : List Char) :
    pieces sep (small s) = (pieces sep s).map small := by
  induction s with
  | nil => rfl
  | cons c s ih =>
    rw [small_cons, pieces, pieces]
    by_cases here : c = sep
    · rw [if_pos here, if_pos ((toLower_eq_iff h).2 here), ih]
      rfl
    · rw [if_neg here, if_neg (mt (toLower_eq_iff h).1 here), ih]
      cases pieces sep s <;> rfl

theorem count_small (h : sep.isAlpha = false) (s : List Char) :
    (small s).count sep = s.count sep := by
  induction s with
  | nil => rfl
  | cons c s ih =>
    simp [small_cons, List.count_cons, ih, toLower_eq_iff h]

end Separator

theorem joinWith_small (sep : List Char) (parts : List (List Char)) :
    small (joinWith sep parts) = joinWith (small sep) (parts.map small) := by
  induction parts with
  | nil => rfl
  | cons a parts ih =>
    cases parts with
    | nil => rw [List.map_singleton, joinWith_singleton, joinWith_singleton]
    | cons b parts =>
      rw [List.map_cons] at ih
      rw [joinWith_cons, List.map_cons, List.map_cons, joinWith_cons, small_append, small_append,
        ih]

/-! ## Patterns -/

/-- The same spot in the text written small. -/
def Spot.small (s : Spot) : Spot := ⟨s.before.map Char.toLower, Text.small s.rest⟩

namespace Piece

theorem one_small {test : Char → Bool} (h : ∀ c, test c.toLower = test c) (s : Spot) :
    one test s.small = (one test s).map Spot.small := by
  obtain ⟨before, rest⟩ := s
  cases rest with
  | nil => rfl
  | cons c rest =>
    have first : Spot.small ⟨before, c :: rest⟩ =
        ⟨before.map Char.toLower, c.toLower :: small rest⟩ := rfl
    rw [first, one_cons, one_cons, h]
    split <;> rfl

theorem blankRuns_small (before : Option Char) (rest : List Char) :
    blankRuns (before.map Char.toLower) (small rest) =
      (blankRuns before rest).map Spot.small := by
  induction rest generalizing before with
  | nil => rfl
  | cons c rest ih =>
    have next := ih (some c)
    rw [Option.map_some] at next
    rw [small_cons, blankRuns, blankRuns, isBlank_toLower, next]
    split <;> rfl

theorem ends_small (piece : Piece) (s : Spot) :
    piece.ends s.small = (piece.ends s).map Spot.small := by
  cases piece with
  | char a => exact one_small (sameLetter_toLower a) s
  | blank => exact one_small isBlank_toLower s
  | hexDigit => exact one_small isHexDigit_toLower s
  | blanks => exact blankRuns_small s.before s.rest
  | edge =>
    have before : s.small.before.any isWordChar = s.before.any isWordChar := by
      cases h : s.before <;> simp [Spot.small, h]
    have after : s.small.rest.head?.any isWordChar = s.rest.head?.any isWordChar := by
      cases h : s.rest <;> simp [Spot.small, Text.small, h]
    simp only [ends, before, after]
    split <;> rfl

end Piece

namespace Pattern

theorem ends_small (p : Pattern) (s : Spot) : p.ends s.small = (p.ends s).map Spot.small := by
  induction p generalizing s with
  | nil => rfl
  | cons piece p ih =>
    rw [ends_cons, ends_cons, Piece.ends_small, List.flatMap_map, List.map_flatMap]
    congr 1
    funext s'
    exact ih s'

theorem splitAfter_small (p : Pattern) (before : Option Char) (s : List Char) :
    p.splitAfter (before.map Char.toLower) (small s) =
      (p.splitAfter before s).map (Prod.map small small) := by
  have here (before : Option Char) (s : List Char) :
      p.ends ⟨before.map Char.toLower, small s⟩ = (p.ends ⟨before, s⟩).map Spot.small :=
    ends_small p ⟨before, s⟩
  induction s generalizing before with
  | nil =>
    have none := here before []
    rw [small, List.map_nil] at none
    rw [small, List.map_nil, splitAfter, splitAfter, none, List.head?_map]
    cases (p.ends ⟨before, []⟩).head? <;> rfl
  | cons c s ih =>
    have next := ih (some c)
    rw [Option.map_some] at next
    have found := here before (c :: s)
    rw [small_cons] at found
    rw [small_cons, splitAfter, splitAfter, found, List.head?_map, next]
    cases (p.ends ⟨before, c :: s⟩).head? with
    | some s' => rfl
    | none => cases p.splitAfter (some c) s <;> rfl

theorem split_small (p : Pattern) (s : List Char) :
    p.split (small s) = (p.split s).map (Prod.map small small) := splitAfter_small p none s

theorem occurs_small (p : Pattern) (s : List Char) : p.occurs (small s) = p.occurs s := by
  rw [occurs, split_small, occurs, Option.isSome_map]

theorem matchesStart_small (p : Pattern) (s : List Char) :
    p.matchesStart (small s) = p.matchesStart s := by
  have here : p.ends ⟨none, small s⟩ = (p.ends ⟨none, s⟩).map Spot.small := ends_small p ⟨none, s⟩
  rw [matchesStart, here, List.isEmpty_map, matchesStart]

end Pattern

end QueryGate.Text
