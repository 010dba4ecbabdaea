import QueryGate.Proofs.Front.Statement
import QueryGate.Proofs.Walk
/-!
# What the tree of a text covers

The units of an accepted text are semicolons, the units its one statement was
read from, and what is left behind that statement. `covering_of_checkParsed`
says what can be left, and when the tree accounts for the whole text.
-/

namespace QueryGate.Sql

/-! ## Units -/

/-- No character of a text is lost in its units. -/
theorem source_lexemesAfter {before : Option Token} {s : List Char} {ls : List Lexeme}
    (h : lexemesAfter before s = .ok ls) : ls.flatMap Lexeme.source = s := by
  fun_induction lexemesAfter before s generalizing ls with
  | case1 => cases h; rfl
  | case2 => cases h
  | case3 => cases h
  | case4 before c rest token n hs more hm ih =>
    cases h
    rw [List.flatMap_cons, ih hm]
    exact congrArg (c :: ·) (List.take_append_drop (n - 1) rest)

theorem source_lexemes {s : List Char} {ls : List Lexeme} (h : lexemes s = .ok ls) :
    ls.flatMap Lexeme.source = s :=
  source_lexemesAfter h

/-! ## Statements in a row -/

namespace Statement

variable {one : Reader Statement}

/-- Where no statement is read, there are only semicolons. -/
theorem semicolons_of_readAll {n : Nat} {ts : List Token} (hn : ts.length ≤ n)
    (h : readAll one false n ts = .ok []) : ∀ t ∈ ts, t = .symbol ";" := by
  induction ts generalizing n with
  | nil => simp
  | cons t ts ih =>
    rw [List.length_cons] at hn
    obtain ⟨n, rfl⟩ : ∃ m, n = m + 1 := ⟨n - 1, by omega⟩
    unfold readAll at h
    split at h
    · next ht => exact List.forall_mem_cons.2 ⟨ht, ih (by omega) h⟩
    · split at h
      · next hf => cases hf
      · split at h
        · cases h
        · obtain ⟨_, -, h⟩ := map_eq_ok.1 h
          cases h

/-- What may be left behind the only statement. -/
def IsRemainder (ts : List Token) : Prop :=
  (∀ t ∈ ts, t = .symbol ";") ∨ ∃ e tail, ts = e :: tail ∧ e.isKey "END"

theorem remainder_of_readAll {n : Nat} {ts : List Token} (hn : ts.length ≤ n)
    (h : readAll one true n ts = .ok []) : IsRemainder ts := by
  cases ts with
  | nil => exact .inl (by simp)
  | cons t ts =>
    rw [List.length_cons] at hn
    obtain ⟨n, rfl⟩ : ∃ m, n = m + 1 := ⟨n - 1, by omega⟩
    unfold readAll at h
    split at h
    · next ht =>
      exact .inl (List.forall_mem_cons.2 ⟨ht, semicolons_of_readAll (by omega) h⟩)
    · split at h
      · split at h
        · next he => exact .inr ⟨t, ts, rfl, he⟩
        · cases h
      · next hf => exact absurd rfl hf

/-- A single statement stands between semicolons and what may be left. -/
theorem readAll_single (hone : one.Front) {n : Nat} {ts : List Token} {s : Statement}
    (hn : ts.length < n) (h : readAll one false n ts = .ok [s]) :
    ∃ before taken after, ts = before ++ taken ++ after ∧ (∀ t ∈ before, t = .symbol ";") ∧
      one (taken ++ after) = .ok (s, after) ∧ IsRemainder after := by
  -- One leading semicolon less each time, until the statement is read.
  induction ts generalizing n with
  | nil => obtain ⟨n, rfl⟩ : ∃ m, n = m + 1 := ⟨n - 1, by omega⟩; cases h
  | cons t ts ih =>
    obtain ⟨n, rfl⟩ : ∃ m, n = m + 1 := ⟨n - 1, by omega⟩
    have hn : ts.length < n := by simpa using hn
    unfold readAll at h
    split at h
    · next ht =>
      obtain ⟨before, taken, after, rfl, hb, hread, hafter⟩ := ih hn h
      exact ⟨t :: before, taken, after, rfl, List.forall_mem_cons.2 ⟨ht, hb⟩, hread, hafter⟩
    · split at h
      · next hf => cases hf
      · split at h
        · cases h
        · next s' r hr =>
          obtain ⟨others, ho, h⟩ := map_eq_ok.1 h
          cases h
          obtain ⟨taken, htaken⟩ := hone.suffix _ _ _ hr
          refine ⟨[], taken, r, htaken.symm, by simp, htaken ▸ hr, remainder_of_readAll ?_ ho⟩
          have := congrArg List.length htaken
          simp only [List.length_append, List.length_cons] at this
          omega

end Statement

end QueryGate.Sql

namespace QueryGate.Gate

open QueryGate.Sql

theorem readStatement_ok {text : List Char} {s : Statement} (h : readStatement text = .ok s) :
    ∃ ls, lexemes (Text.trim text) = .ok ls ∧ Statement.ofTokens (tokens ls) = .ok [s] := by
  unfold readStatement at h
  dsimp only at h
  split at h
  · cases h
  · split at h
    · cases h
    · next ls hl =>
      refine ⟨ls, hl, ?_⟩
      split at h
      · cases h
      · split at h
        · cases h
        · cases h
        · next ho => cases h; exact ho
        · cases h
      · cases h

/-! ## What is passed over -/

/-- The units a `SHOW` passes over between its words. -/
def shownPassed : Statement → List Token
  | .show (.words _ passed) => passed
  | .explain _ s => shownPassed s
  | _ => []

/-- The units `TABLE t` passes over behind its name. -/
def tablePassed : Piece → List Token
  | .body (.table _ passed) => passed
  | _ => []

/-- No unit is passed over anywhere in a statement. -/
def PassesNothing (s : Statement) : Prop := shownPassed s = [] ∧ ∀ p, Has s p → tablePassed p = []

theorem tablePassed_of_passed {p : Piece} (h : Passed p) : tablePassed p = [] := by
  unfold tablePassed
  split
  · obtain ⟨kind, hs⟩ := h.body _ rfl
    cases hs
  · rfl

/-! ## The whole text -/

/-- The reader of statements, at its full depth. -/
def readOne : Reader Statement := (Grammar.levels Grammar.depthLimit).statement

/-- Every unit is read for the statement and kept in it, up to semicolons at the
end. What the grammar has a place for, such as the `GLOBAL` of a join, is read
for the statement even where the tree has no field for it. -/
def Accounts (s : Statement) (ts : List Token) : Prop :=
  ∃ taken trailing, ts = taken ++ trailing ∧ (∀ t ∈ trailing, t = .symbol ";") ∧
    readOne ts = .ok (s, trailing) ∧ PassesNothing s

/-- How the units of a text lie around its statement. -/
structure Covering (text : List Char) (s : Statement) (ls : List Lexeme)
    (before taken after : List Token) : Prop where
  units : lexemes (Text.trim text) = .ok ls
  source : ls.flatMap Lexeme.source = Text.trim text
  read : readStatement text = .ok s
  parts : tokens ls = before ++ taken ++ after
  leading : ∀ t ∈ before, t = .symbol ";"
  taken : readOne (taken ++ after) = .ok (s, after)
  remainder : Statement.IsRemainder after

theorem readOne_semicolon (ts : List Token) : readOne (.symbol ";" :: ts) = .error .unexpected := rfl

theorem accounts_iff {text : List Char} {s : Statement} {kind : Kind} {ls : List Lexeme}
    {before taken after : List Token} (h : Covering text s ls before taken after)
    (hs : checkStatement s = .ok kind) :
    Accounts s (tokens ls) ↔
      before = [] ∧ (∀ t ∈ after, t = .symbol ";") ∧ shownPassed s = [] ∧
        ∀ p, In (unwalked s) p → tablePassed p = [] := by
  constructor
  · rintro ⟨used, trailing, -, hsemi, hread, hshown, htables⟩
    -- No statement begins with a semicolon, so none can lead.
    have first : before = [] := by
      cases before with
      | nil => rfl
      | cons t ts =>
        have semicolon : t = .symbol ";" := h.leading t (by simp)
        rw [h.parts, semicolon, List.append_assoc, List.cons_append, readOne_semicolon] at hread
        cases hread
    subst first
    have same := h.taken
    rw [h.parts, List.nil_append] at hread
    rw [hread] at same
    cases same
    exact ⟨rfl, hsemi, hshown, fun p hp => htables p (has_iff.2 (.inr hp))⟩
  · rintro ⟨rfl, hsemi, hshown, htables⟩
    refine ⟨taken, after, by simpa using h.parts, hsemi, ?_, hshown, fun p hp => ?_⟩
    · simpa [h.parts] using h.taken
    · rcases has_iff.1 hp with hw | hu
      · exact tablePassed_of_passed (passed_of_checkStatement hs hw)
      · exact htables p hu

/-- An accepted text is semicolons, one statement, and then semicolons only or
the word `END` with anything behind it. Its tree accounts for the whole text
exactly if it begins with the statement, no `END` follows, and no `SHOW` passes
over anything, between its words or behind a `TABLE t` in its filter or limit. -/
theorem covering_of_checkParsed {text : List Char} {kind : Kind}
    (h : checkParsed text = .ok kind) :
    ∃ s ls before taken after, checkStatement s = .ok kind ∧
      Covering text s ls before taken after ∧
      (Accounts s (tokens ls) ↔
        before = [] ∧ (∀ t ∈ after, t = .symbol ";") ∧ shownPassed s = [] ∧
          ∀ p, In (unwalked s) p → tablePassed p = []) := by
  obtain ⟨s, hread, hs⟩ := bind_eq_ok.1 h
  obtain ⟨ls, hl, ho⟩ := readStatement_ok hread
  obtain ⟨before, taken, after, hparts, hb, ht, ha⟩ :=
    Statement.readAll_single (Grammar.levels_front _) (by omega) ho
  have covering : Covering text s ls before taken after :=
    ⟨hl, source_lexemes hl, hread, hparts, hb, ht, ha⟩
  exact ⟨s, ls, before, taken, after, hs, covering, accounts_iff covering hs⟩

theorem covering_of_checkParsed_one :
    checkParsed "SELECT 1;".toList = .ok .select ∧
      ∃ s ls before taken after, checkStatement s = .ok .select ∧
        Covering "SELECT 1;".toList s ls before taken after ∧
        (Accounts s (tokens ls) ↔
          before = [] ∧ (∀ t ∈ after, t = .symbol ";") ∧ shownPassed s = [] ∧
            ∀ p, In (unwalked s) p → tablePassed p = []) :=
  have h : checkParsed "SELECT 1;".toList = .ok .select := by decide +kernel
  ⟨h, covering_of_checkParsed h⟩

/-- A statement behind `END` is let through unread. -/
theorem end_tail_accepted :
    checkParsed "SELECT 1 END DROP TABLE users".toList = .ok .select ∧
      ∃ s ls, lexemes (Text.trim "SELECT 1 END DROP TABLE users".toList) = .ok ls ∧
        readStatement "SELECT 1 END DROP TABLE users".toList = .ok s ∧ ¬ Accounts s (tokens ls) := by
  have h : checkParsed "SELECT 1 END DROP TABLE users".toList = .ok .select := by decide +kernel
  have left : (lexemes (Text.trim "SELECT 1 END DROP TABLE users".toList)).bind
      (fun ls => (readOne (tokens ls)).map fun out => out.2) =
      .ok (["END", "DROP", "TABLE", "users"].map fun w => Token.ofName w.toList) := by
    decide +kernel
  obtain ⟨s, hs, -⟩ := bind_eq_ok.1 h
  obtain ⟨ls, hl, -⟩ := readStatement_ok hs
  refine ⟨h, s, ls, hl, hs, ?_⟩
  rintro ⟨used, trailing, -, hsemi, hread, -⟩
  rw [hl] at left
  obtain ⟨⟨s', r⟩, hr, hleft⟩ := map_eq_ok.1 left
  rw [hread] at hr
  cases hr
  dsimp only at hleft
  have first : Token.ofName "END".toList ∈ trailing := by rw [hleft]; simp
  have := hsemi _ first
  cases this

end QueryGate.Gate
