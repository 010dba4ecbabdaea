import QueryGate.Proofs.Unit.Idle
/-!
# Counted and read

Statements are counted on the semicolons of a text before any is read. Reading
never finds more than were counted, so the count alone decides whether a text is
more than one statement.
-/

namespace QueryGate.Gate

open QueryGate.Sql

/-! ## Counting -/

theorem countStatements_le (filled : Bool) (ts : List Token) :
    filled.toNat ≤ countStatements filled ts := by
  fun_induction countStatements filled ts with
  | case1 => exact Nat.le_refl _
  | case2 => exact Nat.le_add_right _ _
  | case3 _ _ _ _ _ ih => exact ih
  | case4 filled _ _ _ _ ih => exact Nat.le_trans (Bool.toNat_le filled) ih

/-- A semicolon ends one count and begins another. -/
theorem countStatements_append (filled : Bool) (xs ys : List Token) :
    countStatements filled (xs ++ .symbol ";" :: ys) =
      countStatements filled xs + countStatements false ys := by
  fun_induction countStatements filled xs with
  | case1 => simp [countStatements]
  | case2 => simp [countStatements, *, Nat.add_assoc]
  | case3 filled t ts semicolon gap ih =>
    rw [List.cons_append, countStatements, if_neg semicolon, if_pos gap, ih]
  | case4 filled t ts semicolon gap ih =>
    rw [List.cons_append, countStatements, if_neg semicolon, if_neg gap, ih]

/-- The statement under way counts for one at most. -/
theorem countStatements_filled (ts : List Token) :
    countStatements false ts ≤ countStatements true ts ∧
      countStatements true ts ≤ countStatements false ts + 1 := by
  induction ts with
  | nil => decide
  | cons t ts ih =>
    simp only [countStatements]
    split
    · simp
      omega
    split
    · exact ih
    · omega

theorem countStatements_suffix {ts us : List Token} (h : us <:+ ts) :
    countStatements true us ≤ countStatements true ts := by
  obtain ⟨taken, rfl⟩ := h
  induction taken with
  | nil => exact Nat.le_refl _
  | cons t taken ih =>
    have := countStatements_filled (taken ++ us)
    rw [List.cons_append, countStatements]
    split
    · simp
      omega
    split
    · exact ih
    · exact ih

/-- Neither a blank nor a comment. -/
def Solid (t : Token) : Prop := t ≠ .blank ∧ t ≠ .comment

theorem countStatements_solid {t : Token} (solid : Solid t) (other : t ≠ .symbol ";")
    (filled : Bool) (ts : List Token) :
    countStatements filled (t :: ts) = countStatements true ts := by
  rw [countStatements, if_neg other, if_neg (not_or.2 solid)]

/-- Blanks and comments do not count, so the units of a statement count alike. -/
theorem countStatements_tokens (filled : Bool) (ls : List Lexeme) :
    countStatements filled (tokens ls) = countStatements filled (ls.map Lexeme.token) := by
  induction ls generalizing filled with
  | nil => rfl
  | cons l ls ih =>
    obtain ⟨token, source⟩ := l
    cases token with
    | blank | comment => simpa [tokens, countStatements] using ih filled
    | symbol s =>
      by_cases apart : (s = ":" ∨ s = "@") ∧ atGap ls
      · obtain ⟨rfl | rfl, gap⟩ := apart
        · simp [tokens, gap, countStatements, ih]
        · simp [tokens, gap, countStatements, ih]
      · simp [tokens, if_neg apart, countStatements, ih]
    | word | number | text | placeholder => simp [tokens, countStatements, ih]

theorem solid_tokens (ls : List Lexeme) : ∀ t ∈ tokens ls, Solid t := by
  fun_induction tokens ls with
  | case1 => simp
  | case2 _ _ _ ih | case3 _ _ _ ih => exact ih
  | case4 l ls s _ ih => exact List.forall_mem_cons.2 ⟨⟨nofun, nofun⟩, ih⟩
  | case5 l ls blank comment _ ih => exact List.forall_mem_cons.2 ⟨⟨blank, comment⟩, ih⟩

/-- Nothing is counted among units that are no part of a statement. -/
theorem countStatements_eq_zero {ts : List Token} :
    countStatements false ts = 0 ↔ ∀ t ∈ ts, t.Idle := by
  induction ts with
  | nil => simp [countStatements]
  | cons t ts ih =>
    rw [List.forall_mem_cons, countStatements]
    split
    · next semicolon => simp [ih, Token.Idle, semicolon]
    · next other =>
      split
      · next gap => simp [ih, Token.Idle, gap]
      · next solid =>
        have := countStatements_le true ts
        have busy : ¬ t.Idle := fun idle => idle.elim other solid
        simp only [Bool.toNat_true] at this
        simp only [busy, false_and, iff_false]
        omega

/-! ## Reading -/

/-- No more statements are read than are counted. -/
theorem length_readAll_le {one : Reader Statement} (hone : one.Front) {after : Bool} {n : Nat}
    {ts : List Token} {ss : List Statement} (solid : ∀ t ∈ ts, Solid t)
    (h : Statement.readAll one after n ts = .ok ss) :
    ss.length + after.toNat ≤ countStatements after ts := by
  -- A statement just read is one under way until its semicolon, so `after` counts for it.
  induction n generalizing after ts ss with
  | zero =>
    cases h
    simpa using countStatements_le after ts
  | succ n ih =>
    cases ts with
    | nil =>
      cases h
      simp [countStatements]
    | cons t ts =>
      obtain ⟨ht, hts⟩ := List.forall_mem_cons.1 solid
      unfold Statement.readAll at h
      split at h
      · next semicolon =>
        have := ih hts h
        rw [countStatements, if_pos semicolon]
        simpa [Nat.add_comm] using this
      · next other =>
        rw [countStatements_solid ht other]
        split at h
        · next under =>
          have one := countStatements_le true ts
          split at h
          · cases h
            subst under
            simpa using one
          · cases h
        · next fresh =>
          split at h
          · cases h
          · next s r hr =>
            obtain ⟨more, hmore, rfl⟩ := map_eq_ok.1 h
            have left := hone.suffix _ _ _ hr
            have rest := ih (fun t ht => solid t (left.mem ht)) hmore
            have fewer : countStatements true r ≤ countStatements true ts := by
              have := countStatements_suffix left
              rwa [countStatements_solid ht other] at this
            have : after.toNat = 0 := by simpa using fresh
            simp only [List.length_cons, Bool.toNat_true] at *
            omega

/-- A text is rejected as several statements exactly if its semicolons make it
more than one. -/
theorem readStatement_multiple {text : List Char} :
    readStatement text = .error .multipleStatements ↔
      ∃ ls, lexemes (Text.trim text) = .ok ls ∧
        1 < countStatements false (ls.map Lexeme.token) := by
  unfold readStatement
  dsimp only
  by_cases empty : (Text.trim text).isEmpty
  · rw [if_pos empty, List.isEmpty_iff.1 empty]
    simp [lexemes, lexemesAfter, countStatements]
  rw [if_neg empty]
  cases hl : lexemes (Text.trim text) with
  | error f => simp
  | ok ls =>
    dsimp only
    split
    · next none => simp [none]
    · next one =>
      -- What is counted as one is read as one at most.
      have fewer {ss : List Statement} (h : Statement.ofTokens (tokens ls) = .ok ss) :
          ss.length ≤ 1 := by
        have := length_readAll_le (Grammar.levels_front _) (solid_tokens ls) h
        rw [countStatements_tokens, one] at this
        simpa using this
      split
      · simp [one]
      · simp [one]
      · simp [one]
      · next ss none single ho =>
        exfalso
        obtain ⟨⟩ | ⟨s, ⟨⟩ | ⟨t, ss⟩⟩ := ss
        · exact none rfl
        · exact single s rfl
        · have := fewer ho
          simp at this
    · next none one =>
      have several : 1 < countStatements false (ls.map Lexeme.token) := by
        have := Nat.pos_of_ne_zero none
        exact Nat.lt_of_le_of_ne this (Ne.symm one)
      simp [several]

theorem count_of_readStatement {text : List Char} {s : Statement} (h : readStatement text = .ok s) :
    ∃ ls, lexemes (Text.trim text) = .ok ls ∧ countStatements false (ls.map Lexeme.token) = 1 := by
  unfold readStatement at h
  dsimp only at h
  split at h
  · cases h
  · split at h
    · cases h
    · next ls hl =>
      split at h
      · cases h
      · next one => exact ⟨ls, hl, one⟩
      · cases h

theorem readStatement_eq_ok_iff {text : List Char} {s : Statement} :
    readStatement text = .ok s ↔
      ∃ ls, lexemes (Text.trim text) = .ok ls ∧
        countStatements false (ls.map Lexeme.token) = 1 ∧
        Statement.ofTokens (tokens ls) = .ok [s] := by
  constructor
  · intro h
    obtain ⟨ls, hl, one⟩ := count_of_readStatement h
    obtain ⟨_, same, ho⟩ := readStatement_ok h
    cases hl.symm.trans same
    exact ⟨ls, hl, one, ho⟩
  · rintro ⟨ls, hl, one, ho⟩
    have some : ¬ (Text.trim text).isEmpty := by
      intro empty
      rw [List.isEmpty_iff.1 empty, lexemes, lexemesAfter] at hl
      cases hl
      cases one
    simp only [readStatement, if_neg some, hl, one, ho]

end QueryGate.Gate
