import Mathlib.Data.List.Basic
import QueryGate.Proofs.Text.Split
/-!
# Matches on either side of a seam

Two texts put together have a match where one of them has, if no match reaches
from the first into the second. `Halts` says of a pattern that none does.
-/

namespace QueryGate.Text.Pattern

variable {p : Pattern} {s t : List Char}

theorem occurs_iff : p.occurs s ↔ ∃ a r, s = a ++ r ∧ p.ends ⟨a.getLast?, r⟩ ≠ [] := by
  rw [occurs, split, Option.isSome_iff_ne_none, ne_eq, splitAfter_eq_none]
  simp only [Option.or_none, Classical.not_forall, exists_prop]

/-- A match that begins before `t` ends as it would without `t`. -/
def Halts (p : Pattern) (t : List Char) : Prop :=
  ∀ before rest, p.ends ⟨before, rest ++ t⟩ = (p.ends ⟨before, rest⟩).map (Spot.more t)

theorem halts_nil (t : List Char) : Halts [] t := fun _ _ => rfl

theorem Halts.cons {piece : Piece} (h : p.Halts t) (word : t.head?.any isWordChar = false)
    (other : ∀ c ∈ t.head?, piece.takes c = false) : Halts (piece :: p) t := by
  intro before rest
  obtain ⟨extra, same, within⟩ := piece.ends_append word before rest
  have none : extra = [] := by
    refine List.eq_nil_iff_forall_not_mem.2 fun s hs => ?_
    obtain ⟨c, u, rfl, taken, -⟩ := within s hs
    rw [other c rfl] at taken
    cases taken
  have each (s : Spot) : p.ends (s.more t) = (p.ends s).map (Spot.more t) := h s.before s.rest
  rw [ends_cons, ends_cons, same, none, List.append_nil, List.flatMap_map, List.map_flatMap]
  simp only [each]

/-- Pieces that do not take the first character of `t` can be put in front. -/
theorem Halts.append (h : p.Halts t) (word : t.head?.any isWordChar = false) {front : Pattern}
    (other : ∀ piece ∈ front, ∀ c ∈ t.head?, piece.takes c = false) : Halts (front ++ p) t := by
  induction front with
  | nil => exact h
  | cons piece front ih =>
    obtain ⟨first, others⟩ := List.forall_mem_cons.1 other
    exact (ih others).cons word first

/-! ## Blanks before a mark -/

/-- Blanks and then a mark. -/
def gapBefore (mark : Char) : Pattern := [.blanks, .char mark]

theorem ends_gapBefore (mark : Char) (before : Option Char) (c : Char) (r : List Char) :
    (gapBefore mark).ends ⟨before, c :: r⟩ =
      (if sameLetter mark c then [⟨some c, r⟩] else []) ++
        if isBlank c then (gapBefore mark).ends ⟨some c, r⟩ else [] := by
  have first (s : Spot) : ends [.char mark] s = Piece.one (sameLetter mark) s := by
    rw [ends_cons]
    exact List.flatMap_singleton' _
  simp only [gapBefore, ends_cons .blanks, Piece.ends, Piece.blankRuns, List.flatMap_cons, first,
    Piece.one_cons]
  congr 1
  split
  · rfl
  · rfl

/-- Of a text with another first visible character nothing is taken. -/
theorem ends_gapBefore_eq_nil {mark : Char} (visible : isBlank mark = false)
    (other : ∀ c ∈ (trimStart t).head?, sameLetter mark c = false) (before : Option Char) :
    (gapBefore mark).ends ⟨before, t⟩ = [] := by
  induction t generalizing before with
  | nil => rfl
  | cons c t ih =>
    rw [ends_gapBefore]
    by_cases blank : isBlank c
    · have seen : (Piece.char mark).visible := congrArg not visible
      have skipped : sameLetter mark c = false := Piece.takes_blank seen blank
      have behind : trimStart (c :: t) = trimStart t := by simp [trimStart, blank]
      rw [behind] at other
      simp [skipped, blank, ih other]
    · have front : trimStart (c :: t) = c :: t := by simp [trimStart, blank]
      simp [other c (by rw [front]; rfl), blank]

theorem halts_gapBefore {mark : Char} (visible : isBlank mark = false)
    (other : ∀ c ∈ (trimStart t).head?, sameLetter mark c = false) : (gapBefore mark).Halts t := by
  intro before rest
  induction rest generalizing before with
  | nil => exact ends_gapBefore_eq_nil visible other before
  | cons c rest ih =>
    rw [List.cons_append, ends_gapBefore, ends_gapBefore, ih, List.map_append]
    congr 1
    · split <;> rfl
    · split <;> rfl

/-! ## Both sides -/

/-- A match within two texts is a match within one of them. -/
theorem occurs_append_iff (solid : p.solid) (halts : p.Halts t) (s : List Char) :
    p.occurs (s ++ t) ↔ p.occurs s ∨ p.occurs t := by
  have empty (before : Option Char) : p.ends ⟨before, []⟩ = [] := ends_blank solid rfl
  have front (before : Option Char) : p.ends ⟨before, t⟩ = [] := by
    simpa [empty] using halts before []
  simp only [occurs_iff]
  constructor
  · rintro ⟨a, r, same, found⟩
    obtain ⟨m, rfl, rfl⟩ | ⟨m, rfl, rfl⟩ := List.append_eq_append_iff.1 same
    · -- The match begins in the second text, but not at its very beginning.
      right
      have inner : m ≠ [] := by
        rintro rfl
        exact found (front _)
      rw [List.getLast?_append_of_ne_nil s inner] at found
      exact ⟨m, r, rfl, found⟩
    · left
      rw [halts] at found
      exact ⟨a, m, rfl, fun none => found (by rw [none]; rfl)⟩
  · rintro (⟨a, r, rfl, found⟩ | ⟨a, r, rfl, found⟩)
    · refine ⟨a, r ++ t, List.append_assoc .., ?_⟩
      rw [halts]
      exact fun none => found (List.map_eq_nil_iff.1 none)
    · have inner : a ≠ [] := by
        rintro rfl
        exact found (front _)
      refine ⟨s ++ a, r, (List.append_assoc ..).symm, ?_⟩
      rwa [List.getLast?_append_of_ne_nil s inner]

end QueryGate.Text.Pattern
