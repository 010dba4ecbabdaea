import QueryGate.Proofs.Text.Words
/-!
# Texts at a separator

Cutting a text and putting the parts together are inverse to each other, so a
cut is known from what the parts have in them.
-/

namespace QueryGate.Text

variable {sep : Char} {s a b : List Char}

/-! ## The first separator -/

theorem cutFirst_append (h : sep ∉ a) (b : List Char) :
    cutFirst sep (a ++ sep :: b) = some (a, b) := by
  induction a with
  | nil => simp [cutFirst]
  | cons c a ih =>
    obtain ⟨hc, ha⟩ := List.ne_and_not_mem_of_not_mem_cons h
    rw [List.cons_append, cutFirst, if_neg (Ne.symm hc), ih ha]
    rfl

theorem cutFirst_eq_none : cutFirst sep s = none ↔ sep ∉ s := by
  induction s with
  | nil => simp [cutFirst]
  | cons c s ih =>
    rw [cutFirst]
    by_cases hc : c = sep
    · simp [hc]
    · simp [hc, Ne.symm hc, ih]

theorem cutFirst_eq_some : cutFirst sep s = some (a, b) ↔ s = a ++ sep :: b ∧ sep ∉ a := by
  constructor
  · intro h
    induction s generalizing a with
    | nil => cases h
    | cons c s ih =>
      rw [cutFirst] at h
      split at h
      · next hc =>
        cases h
        exact ⟨by rw [hc]; rfl, List.not_mem_nil⟩
      · next hc =>
        obtain ⟨⟨a, b⟩, hs, same⟩ := Option.map_eq_some_iff.1 h
        cases same
        obtain ⟨rfl, ha⟩ := ih hs
        exact ⟨rfl, List.not_mem_cons_of_ne_of_not_mem (Ne.symm hc) ha⟩
  · rintro ⟨rfl, ha⟩
    exact cutFirst_append ha b

theorem exists_cutFirst (h : sep ∈ s) : ∃ a b, cutFirst sep s = some (a, b) := by
  cases hs : cutFirst sep s with
  | none => exact absurd h (cutFirst_eq_none.1 hs)
  | some parts => exact ⟨_, _, rfl⟩

/-- Behind the first separator there is more than behind another. -/
theorem suffix_of_cutFirst {a' b' : List Char} (h : cutFirst sep s = some (a, b))
    (hs : s = a' ++ sep :: b') : b' <:+ b := by
  obtain ⟨rfl, ha⟩ := cutFirst_eq_some.1 h
  obtain ⟨m, rfl, hb⟩ | ⟨m, rfl, hb⟩ := List.append_eq_append_iff.1 hs.symm
  · cases m with
    | nil => cases hb; exact List.suffix_refl _
    | cons c m => cases hb; exact absurd List.mem_append_cons_self ha
  · cases m with
    | nil => cases hb; exact List.suffix_refl _
    | cons c m => cases hb; exact ⟨m ++ [sep], by simp⟩

/-! ## The last separator -/

theorem cutLast_eq_none : cutLast sep s = none ↔ sep ∉ s := by
  induction s with
  | nil => simp [cutLast]
  | cons c s ih =>
    rw [cutLast, List.mem_cons, not_or, ← ih, eq_comm (a := sep)]
    cases cutLast sep s with
    | some parts => simp
    | none => by_cases hc : c = sep <;> simp [hc]

theorem cutLast_append (a : List Char) (h : sep ∉ b) :
    cutLast sep (a ++ sep :: b) = some (a, b) := by
  induction a with
  | nil => simp [cutLast, cutLast_eq_none.2 h]
  | cons c a ih => rw [List.cons_append, cutLast, ih]

theorem cutLast_eq_some : cutLast sep s = some (a, b) ↔ s = a ++ sep :: b ∧ sep ∉ b := by
  constructor
  · intro h
    induction s generalizing a with
    | nil => cases h
    | cons c s ih =>
      rw [cutLast] at h
      split at h
      · next hs =>
        cases h
        obtain ⟨rfl, hb⟩ := ih hs
        exact ⟨rfl, hb⟩
      · next hs =>
        split at h
        · next hc =>
          cases h
          exact ⟨by rw [hc]; rfl, cutLast_eq_none.1 hs⟩
        · cases h
  · rintro ⟨rfl, hb⟩
    exact cutLast_append a hb

/-- In front of a text that has separators the last one is the text's. -/
theorem cutLast_behind (lead : List Char) (h : cutLast sep s = some (a, b)) :
    cutLast sep (lead ++ s) = some (lead ++ a, b) := by
  obtain ⟨rfl, hb⟩ := cutLast_eq_some.1 h
  rw [← List.append_assoc, cutLast_append _ hb]

theorem exists_cutLast (h : sep ∈ s) : ∃ a b, cutLast sep s = some (a, b) := by
  cases hs : cutLast sep s with
  | none => exact absurd h (cutLast_eq_none.1 hs)
  | some parts => exact ⟨_, _, rfl⟩

/-! ## Pieces -/

theorem pieces_ne_nil (s : List Char) : pieces sep s ≠ [] := by
  cases s with
  | nil => simp [pieces]
  | cons c s =>
    rw [pieces]
    split
    · simp
    · split <;> simp

theorem pieces_cons {c : Char} (hc : c ≠ sep) (s : List Char) :
    ∃ p ps, pieces sep s = p :: ps ∧ pieces sep (c :: s) = (c :: p) :: ps := by
  obtain ⟨p, ps, hs⟩ := List.exists_cons_of_ne_nil (pieces_ne_nil s : pieces sep s ≠ [])
  exact ⟨p, ps, hs, by rw [pieces, if_neg hc, hs]⟩

theorem pieces_of_not_mem (h : sep ∉ s) : pieces sep s = [s] := by
  induction s with
  | nil => rfl
  | cons c s ih =>
    obtain ⟨hc, hs⟩ := List.ne_and_not_mem_of_not_mem_cons h
    rw [pieces, if_neg (Ne.symm hc), ih hs]

theorem pieces_append (sep : Char) (s t : List Char) :
    pieces sep (s ++ sep :: t) = pieces sep s ++ pieces sep t := by
  induction s with
  | nil => simp [pieces]
  | cons c s ih =>
    by_cases hc : c = sep
    · rw [List.cons_append, pieces, if_pos hc, pieces, if_pos hc, ih, List.cons_append]
    · obtain ⟨p, ps, hs, hcs⟩ := pieces_cons hc s
      obtain ⟨p', ps', hst, hcst⟩ := pieces_cons hc (s ++ sep :: t)
      rw [ih, hs, List.cons_append] at hst
      cases hst
      rw [List.cons_append, hcst, hcs, List.cons_append]

/-- Lines with a separator behind each are the pieces, up to the last one. -/
theorem pieces_lines {lines : List (List Char)} (h : ∀ line ∈ lines, sep ∉ line) (b : List Char) :
    pieces sep (lines.flatMap (fun line => line ++ [sep]) ++ b) = lines ++ pieces sep b := by
  induction lines with
  | nil => rfl
  | cons line lines ih =>
    obtain ⟨first, others⟩ := List.forall_mem_cons.1 h
    rw [List.flatMap_cons, List.append_assoc, List.append_assoc, List.singleton_append,
      pieces_append, pieces_of_not_mem first, ih others, List.singleton_append, List.cons_append]

/-! ## The end of a text -/

theorem after?_eq_some {head text rest : List Char} :
    after? head text = some rest ↔ text = head ++ rest := by
  induction head generalizing text with
  | nil => simp [after?, eq_comm]
  | cons h hs ih =>
    cases text with
    | nil => simp [after?]
    | cons c t =>
      rw [after?]
      by_cases same : h = c
      · simp [same, ih]
      · simp [same, Ne.symm same]

theorem before?_eq_some {tail text rest : List Char} :
    before? tail text = some rest ↔ text = rest ++ tail := by
  simp only [before?, Option.map_eq_some_iff, after?_eq_some]
  constructor
  · rintro ⟨r, hr, rfl⟩
    rw [← List.reverse_inj, hr, List.reverse_append, List.reverse_reverse]
  · rintro rfl
    exact ⟨rest.reverse, by rw [List.reverse_append], List.reverse_reverse rest⟩

/-! ## Joining -/

theorem joinWith_singleton (sep a : List Char) : joinWith sep [a] = a := List.append_nil a

theorem joinWith_cons (sep a b : List Char) (parts : List (List Char)) :
    joinWith sep (a :: b :: parts) = a ++ (sep ++ joinWith sep (b :: parts)) := rfl

/-- What holds of every part and is kept when two texts are joined holds of the
whole. -/
theorem joinWith_of_parts {holds : List Char → Prop} {sep : List Char} {parts : List (List Char)}
    (none : holds []) (join : ∀ a b, holds a → holds b → holds (a ++ (sep ++ b)))
    (h : ∀ part ∈ parts, holds part) : holds (joinWith sep parts) := by
  induction parts with
  | nil => exact none
  | cons a parts ih =>
    obtain ⟨first, others⟩ := List.forall_mem_cons.1 h
    cases parts with
    | nil => rwa [joinWith_singleton]
    | cons b parts =>
      rw [joinWith_cons]
      exact join _ _ first (ih others)

/-- A joined text is made of the parts and the separator. -/
theorem mem_joinWith {sep : List Char} {parts : List (List Char)} {c : Char}
    (h : c ∈ joinWith sep parts) : c ∈ sep ∨ ∃ part ∈ parts, c ∈ part := by
  induction parts with
  | nil => cases h
  | cons a parts ih =>
    cases parts with
    | nil => exact .inr ⟨a, by simp, by rwa [joinWith_singleton] at h⟩
    | cons b parts =>
      rw [joinWith_cons, List.mem_append, List.mem_append] at h
      obtain first | separator | later := h
      · exact .inr ⟨a, by simp, first⟩
      · exact .inl separator
      · obtain known | ⟨part, hp, hc⟩ := ih later
        · exact .inl known
        · exact .inr ⟨part, List.mem_cons_of_mem _ hp, hc⟩

end QueryGate.Text
