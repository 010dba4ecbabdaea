import QueryGate.Text.Case
import QueryGate.Text.Cut
import QueryGate.Text.Pattern
/-!
# Words in a text
-/

namespace QueryGate.Text

/-! ## Words at the front -/

theorem beginsWith_iff {head text : List Char} : beginsWith head text ↔ head <+: text := by
  unfold beginsWith
  induction head generalizing text with
  | nil => simp [after?]
  | cons h hs ih =>
    cases text with
    | nil => simp [after?]
    | cons c t =>
      rw [after?, List.cons_prefix_cons]
      by_cases same : h = c
      · simpa [same] using ih
      · simp [same]

/-- A word does not reach into what begins with none of its letters. -/
theorem prefix_append_iff {w k u : List Char} (h : ∀ c ∈ u.head?, c ∉ w) :
    w <+: k ++ u ↔ w <+: k := by
  induction k generalizing w with
  | nil =>
    cases w with
    | nil => simp
    | cons x xs =>
      cases u with
      | nil => simp
      | cons y ys =>
        have : x ≠ y := by
          rintro rfl
          exact h x rfl (by simp)
        simp [List.cons_prefix_cons, this]
  | cons a k ih =>
    cases w with
    | nil => simp
    | cons x xs =>
      rw [List.cons_append, List.cons_prefix_cons, List.cons_prefix_cons,
        ih fun c hc hm => h c hc (List.mem_cons_of_mem _ hm)]

theorem hasPart_iff {part text : List Char} : hasPart part text ↔ part <:+: text := by
  induction text with
  | nil => simp [hasPart]
  | cons c text ih => rw [hasPart, Bool.or_eq_true, beginsWith_iff, ih, List.infix_cons_iff]

theorem upper_append (a b : List Char) : upper (a ++ b) = upper a ++ upper b :=
  List.flatMap_append

/-- What holds of all ASCII characters can be decided. -/
theorem exists_ofNat {c : Char} (h : c.toNat < 128) : ∃ n : Fin 128, c = Char.ofNat n :=
  ⟨⟨c.toNat, h⟩, (Char.ofNat_toNat c).symm⟩

/-! ## Words anywhere in a text -/

theorem sameLetter_refl (c : Char) : sameLetter c c := by simp [sameLetter]

namespace Pattern

/-- A match begins wherever the word stands. -/
theorem ends_word {w : List Char} {spots : List Spot} {before : Option Char} {post : List Char}
    (h : ⟨before, w ++ post⟩ ∈ spots) :
    (w.map Piece.char).foldl (fun spots piece => spots.flatMap piece.ends) spots ≠ [] := by
  induction w generalizing spots before with
  | nil =>
    rintro rfl
    cases h
  | cons c w ih =>
    rw [List.map_cons, List.foldl_cons]
    have next : (⟨some c, w ++ post⟩ : Spot) ∈ spots.flatMap (Piece.char c).ends :=
      List.mem_flatMap.2 ⟨_, h, by simp [Piece.ends, Piece.one, sameLetter_refl]⟩
    exact ih next

theorem splitAfter_word (w : String) (pre post : List Char) (before : Option Char) :
    ((word w).splitAfter before (pre ++ w.toList ++ post)).isSome := by
  induction pre generalizing before with
  | nil =>
    have here : (word w).ends ⟨before, w.toList ++ post⟩ ≠ [] :=
      ends_word (List.mem_singleton.2 rfl)
    rw [List.nil_append]
    cases hs : w.toList ++ post with
    | nil => simpa [splitAfter, ← hs] using here
    | cons c r =>
      rw [hs] at here
      obtain ⟨s, spots, found⟩ := List.exists_cons_of_ne_nil here
      simp [splitAfter, found]
  | cons c pre ih =>
    rw [List.cons_append, List.cons_append, splitAfter]
    split
    · rfl
    · rw [Option.isSome_map]
      exact ih (some c)

/-- A text that has the word in it. -/
theorem occurs_word (w : String) (pre post : List Char) :
    (word w).occurs (pre ++ w.toList ++ post) := splitAfter_word w pre post none

end Pattern
end QueryGate.Text
