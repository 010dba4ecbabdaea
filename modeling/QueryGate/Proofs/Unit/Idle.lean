import QueryGate.Proofs.Coverage
import QueryGate.Proofs.Unit.Name
/-!
# Units that are no part of a statement

Blanks, comments and semicolons. Where a text is read as nothing else, so is
every beginning of it, and so is what follows its blanks.
-/

namespace QueryGate.Sql

namespace Token

/-- What stands between statements. -/
def Idle (t : Token) : Prop := t = .symbol ";" ∨ t = .blank ∨ t = .comment

/-! ## How they begin -/

/-- A blank that no name goes on with. -/
theorem ascii_blank {c : Char} (h : Text.isBlank c) (hn : isNameStart c = false) :
    c ∈ [' ', '\t', '\n', '\r', '\x0b', '\x0c'] := by
  have ascii : c.toNat < 128 := by
    apply Decidable.byContradiction
    intro wide
    have : isNameStart c := isNameStart_iff.2 (by omega)
    rw [hn] at this
    cases this
  obtain ⟨n, rfl⟩ := Text.exists_ofNat ascii
  revert n
  decide

theorem scan_blank {c : Char} (h : Text.isBlank c) (hn : isNameStart c = false)
    (before : Option Token) (rest : List Char) :
    scan before c rest = .ok (.blank, if c = '\r' ∧ rest.head? = some '\n' then 2 else 1) := by
  have := ascii_blank h hn
  simp only [List.mem_cons, List.not_mem_nil, or_false] at this
  obtain rfl | rfl | rfl | rfl | rfl | rfl := this
  · simp [scan]
  · simp [scan]
  · simp [scan]
  · simp [scan]
  · rfl
  · rfl

theorem scan_line {rest : List Char} (before : Option Token) (h : rest.head? = some '-')
    (hb : (rest.drop 1).head?.all Text.isBlank) :
    scan before '-' rest = .ok (.comment, 1 + lineLength rest) := by
  unfold scan
  dsimp only
  rw [if_neg (by decide), if_neg (by decide), if_neg (by decide), if_neg (by decide),
    if_neg (by decide), if_neg (by decide), if_neg (by decide), if_neg (by decide),
    if_neg (by decide), if_pos ⟨rfl, h, hb⟩]

theorem scan_block (before : Option Token) (rest : List Char) :
    scan before '/' ('*' :: rest) =
      match blockLength rest with
      | some n => .ok (.comment, 2 + n)
      | none => .error .unclosed := by
  rfl

theorem not_idle_quoted {form : TextForm} {mark : Char} {escapes : Bool} {k : Nat}
    {rest : List Char} {token : Token} {n : Nat}
    (h : quoted form mark escapes k rest = .ok (token, n)) : ¬ Idle token := by
  unfold quoted at h
  split at h
  · cases h
    simp [Idle]
  · cases h

theorem not_idle_name (s : List Char) (k : Nat) : ¬ Idle (name s k).1 := by
  simp [Idle, name, ofName]

theorem not_idle_introduced {form : TextForm} {marks : List Char} {escapes : Bool} {s : List Char}
    {token : Token} {n : Nat} (h : introduced form marks escapes s = .ok (token, n)) :
    ¬ Idle token := by
  have named := not_idle_name s 1
  unfold introduced at h
  split at h
  · split at h
    · exact not_idle_quoted h
    · cases h
      exact named
  · cases h
    exact named

theorem not_idle_digits (afterPeriod : Bool) (s : List Char) :
    ¬ Idle (digitsToken afterPeriod s) := by
  cases afterPeriod
  · simp [Idle, digitsToken]
  · simp [Idle, digitsToken, ofName]

theorem not_idle_numeral (afterWord afterPeriod : Bool) (s : List Char) :
    ¬ Idle (numeral afterWord afterPeriod s).1 := by
  fun_cases numeral afterWord afterPeriod s with
  | case1 => simp [Idle]
  | case2 => simp [Idle]
  | case3 whole rest _ point fraction =>
    fun_cases mantissaTail afterPeriod s (whole + point + fraction) with
    | case1 | case2 => exact not_idle_digits _ _
    | case3 => simp [Idle]
    | case4 => simp [Idle, ofName]

theorem not_idle_atSign (s : List Char) : ¬ Idle (atSign s).1 := by
  fun_cases atSign s with
  | case6 | case8 => exact not_idle_name s _
  | _ => simp [Idle]

theorem semicolon_of_symbolAt {c : Char} {s : List Char} (idle : Idle (symbolAt c s).1) :
    c = ';' := by
  unfold symbolAt at idle
  split at idle
  · next t ht =>
    have all : ∀ t ∈ longSymbols, ¬ Idle (.symbol (sameSymbol t)) := by
      simp [Idle]
      decide
    exact absurd idle (all t (List.mem_of_find?_eq_some ht))
  · have single : String.singleton c = ";" := by simpa [Idle] using idle
    simpa using congrArg String.toList single

theorem token_of_ok {unit : Token × Nat} {token : Token} {n : Nat}
    (h : (.ok unit : Except Fault (Token × Nat)) = .ok (token, n)) : unit.1 = token :=
  congrArg Prod.fst (Except.ok.inj h)

/-- How a blank, a comment or a semicolon begins. -/
theorem idle_inv {before : Option Token} {c : Char} {rest : List Char} {token : Token} {n : Nat}
    (h : scan before c rest = .ok (token, n)) (idle : Idle token) :
    (Text.isBlank c ∧ isNameStart c = false) ∨ c = ';' ∨ c = '#' ∨
      (c = '-' ∧ rest.head? = some '-' ∧ (rest.drop 1).head?.all Text.isBlank) ∨
      (c = '/' ∧ rest.head? = some '*') := by
  revert h
  fun_cases scan before c rest with
  | case1 blank =>
    intro _
    obtain (rfl | rfl) | rfl : (c = ' ' ∨ c = '\t') ∨ c = '\n' := by simpa using blank
    all_goals exact .inl ⟨rfl, rfl⟩
  | case2 _ feed =>
    subst feed
    exact fun _ => .inl ⟨rfl, rfl⟩
  | case3 | case4 | case5 => exact fun h => absurd idle (not_idle_introduced h)
  | case6 | case7 => exact fun h => absurd idle (not_idle_quoted h)
  | case8 | case18 =>
    rintro ⟨⟩
    simp [Idle] at idle
  | case9 | case11 | case16 => exact nofun
  | case10 =>
    rintro ⟨⟩
    simp [Idle] at idle
  | case12 =>
    intro h
    rw [← token_of_ok h] at idle
    exact absurd idle (not_idle_numeral _ _ _)
  | case13 _ _ _ _ _ _ _ _ _ line => exact fun _ => .inr (.inr (.inr (.inl line)))
  | case14 _ _ _ _ _ _ _ _ _ _ hash => exact fun _ => .inr (.inr (.inl hash))
  | case15 _ _ _ _ _ _ _ _ _ _ _ block => exact fun _ => .inr (.inr (.inr (.inr block)))
  | case17 =>
    intro h
    rw [← token_of_ok h] at idle
    exact absurd idle (not_idle_atSign _)
  | case19 =>
    intro h
    rw [← token_of_ok h] at idle
    exact absurd idle (not_idle_name _ _)
  | case20 _ _ _ _ _ _ _ _ _ _ _ _ _ _ start blank =>
    exact fun _ => .inl ⟨blank, by simpa using start⟩
  | case21 =>
    intro h
    rw [← token_of_ok h] at idle
    exact .inr (.inl (semicolon_of_symbolAt idle))

/-! ## Idle units of a longer text -/

theorem lineLength_append (s more : List Char) :
    lineLength (s ++ more) = lineLength s ∨ s.drop (lineLength s) = [] := by
  induction s with
  | nil => exact .inr rfl
  | cons c s ih =>
    rw [List.cons_append, lineLength, lineLength]
    split
    · exact .inl rfl
    · rw [List.drop_succ_cons, Nat.add_right_cancel_iff]
      exact ih

/-- A comment up to the end of its line is as long in a longer text, unless the
text ends. -/
theorem line_append (s more : List Char) :
    1 + lineLength s = 1 + lineLength (s ++ more) ∨ s.drop (1 + lineLength s - 1) = [] := by
  rw [Nat.add_sub_cancel_left]
  exact (lineLength_append s more).imp (fun same => congrArg (1 + ·) same.symm) id

theorem blockLength_append {s : List Char} {n : Nat} (h : blockLength s = some n)
    (more : List Char) : blockLength (s ++ more) = some n := by
  fun_induction blockLength s generalizing n with
  | case1 => cases h
  | case2 => cases h
  | case3 c d r ends => rw [List.cons_append, List.cons_append, blockLength, if_pos ends, h]
  | case4 c d r goesOn ih =>
    obtain ⟨k, hk, rfl⟩ := Option.map_eq_some_iff.1 h
    rw [List.cons_append, List.cons_append, blockLength, if_neg goesOn, ← List.cons_append, ih hk]
    rfl

/-- What is behind a text stops its last unit: a blank, a semicolon or nothing. -/
def Stops (more : List Char) : Prop := ∀ c ∈ more.head?, Text.isBlank c ∨ c = ';'

theorem head?_of_stops {s more : List Char} {c : Char} (stops : Stops more)
    (hc : Text.isBlank c = false) (hsemi : c ≠ ';') (h : (s ++ more).head? = some c) :
    ∃ r, s = c :: r := by
  cases s with
  | nil =>
    obtain blank | semicolon := stops c h
    · rw [hc] at blank
      cases blank
    · exact absurd semicolon hsemi
  | cons d r =>
    cases h
    exact ⟨r, rfl⟩

/-- What is idle in a longer text is idle, and as long unless the text ends. -/
theorem idle_of_scan {before before' : Option Token} {c : Char} {r more : List Char}
    {token token' : Token} {n n' : Nat} (stops : Stops more)
    (h' : scan before' c (r ++ more) = .ok (token', n')) (idle : Idle token')
    (h : scan before c r = .ok (token, n)) : Idle token ∧ (n = n' ∨ r.drop (n - 1) = []) := by
  obtain ⟨blank, start⟩ | rfl | rfl | ⟨rfl, second, third⟩ | ⟨rfl, second⟩ := idle_inv h' idle
  · rw [scan_blank blank start] at h h'
    cases h
    cases h'
    refine ⟨.inr (.inl rfl), ?_⟩
    cases r with
    | nil => simp
    | cons d r => exact .inl rfl
  · cases h
    cases h'
    exact ⟨.inl rfl, .inl rfl⟩
  · cases h
    cases h'
    exact ⟨.inr (.inr rfl), line_append _ more⟩
  · obtain ⟨r, rfl⟩ := head?_of_stops stops rfl (by decide) second
    have gap : (('-' :: r).drop 1).head?.all Text.isBlank := by
      cases r with
      | nil => rfl
      | cons d r => exact third
    rw [scan_line _ second third] at h'
    rw [scan_line _ rfl gap] at h
    cases h
    cases h'
    exact ⟨.inr (.inr rfl), line_append _ more⟩
  · obtain ⟨r, rfl⟩ := head?_of_stops stops rfl (by decide) second
    rw [List.cons_append, scan_block] at h'
    rw [scan_block] at h
    split at h
    · next n closes =>
      rw [blockLength_append closes] at h'
      cases h
      cases h'
      exact ⟨.inr (.inr rfl), .inl rfl⟩
    · cases h

end Token

open Token

theorem lexemesAfter_cons {before : Option Token} {c : Char} {s : List Char} {l : Lexeme}
    {ls : List Lexeme} :
    lexemesAfter before (c :: s) = .ok (l :: ls) ↔
      ∃ n, scan before c s = .ok (l.token, n) ∧ l.source = c :: s.take (n - 1) ∧
        lexemesAfter (some l.token) (s.drop (n - 1)) = .ok ls := by
  obtain ⟨token, source⟩ := l
  rw [lexemesAfter]
  constructor
  · intro h
    split at h
    · cases h
    · next token n hs =>
      split at h
      · cases h
      · next ls hl =>
        cases h
        exact ⟨n, hs, rfl, hl⟩
  · rintro ⟨n, hs, rfl, hl⟩
    rw [hs]
    dsimp only
    rw [hl]

/-- The units behind a unit are those of the text behind it. -/
theorem lexemesAfter_behind {before : Option Token} {s : List Char} {front back : List Lexeme}
    {l : Lexeme} (h : lexemesAfter before s = .ok (front ++ l :: back)) :
    lexemesAfter (some l.token) (back.flatMap Lexeme.source) = .ok back := by
  induction front generalizing before s with
  | nil =>
    cases s with
    | nil => rw [lexemesAfter] at h; cases h
    | cons c s =>
      obtain ⟨n, -, -, rest⟩ := lexemesAfter_cons.1 h
      rwa [source_lexemesAfter rest]
  | cons first front ih =>
    cases s with
    | nil => rw [lexemesAfter] at h; cases h
    | cons c s =>
      obtain ⟨n, -, -, rest⟩ := lexemesAfter_cons.1 h
      exact ih rest

/-- A text of which a longer one makes nothing but idle units has no others. -/
theorem idle_of_front {before before' : Option Token} {s more tail : List Char}
    {ls front back : List Lexeme} (stops : Stops more) (h : lexemesAfter before s = .ok ls)
    (h' : lexemesAfter before' (s ++ more) = .ok (front ++ back))
    (covers : front.flatMap Lexeme.source = s ++ tail) (idle : ∀ l ∈ front, Idle l.token) :
    ∀ l ∈ ls, Idle l.token := by
  -- On the units of the shorter text. The longer one has the same unit in front and goes on
  -- with the same rest, unless the shorter text ends with that unit.
  fun_induction lexemesAfter before s generalizing ls front before' with
  | case1 => cases h; simp
  | case2 => cases h
  | case3 => cases h
  | case4 before c r token n hs ls hl ih =>
    cases h
    cases front with
    | nil => cases covers
    | cons l front =>
      obtain ⟨hidle, hfront⟩ := List.forall_mem_cons.1 idle
      rw [List.cons_append, List.cons_append] at h'
      obtain ⟨n', hs', source, hl'⟩ := lexemesAfter_cons.1 h'
      obtain ⟨htoken, same⟩ := idle_of_scan stops hs' hidle hs
      refine List.forall_mem_cons.2 ⟨htoken, ?_⟩
      by_cases last : r.drop (n - 1) = []
      · rw [last, lexemesAfter] at hl
        cases hl
        simp
      · obtain rfl := same.resolve_right last
        have within : n - 1 ≤ r.length := by
          have := mt List.drop_eq_nil_of_le last
          omega
        rw [List.drop_append_of_le_length within] at hl'
        refine ih hl hl' ?_ hfront
        have whole : r ++ tail = r.take (n - 1) ++ (r.drop (n - 1) ++ tail) := by
          rw [← List.append_assoc, List.take_append_drop]
        rw [List.flatMap_cons, source, List.take_append_of_le_length within] at covers
        exact List.append_cancel_left ((List.cons.inj covers).2.trans whole)

/-! ## Idle units in front -/

theorem lexemesAfter_idle {before : Token} (idle : Idle before) (s : List Char) :
    lexemesAfter (some before) s = lexemes s := by
  have alone (c : Char) (rest : List Char) : scan (some before) c rest = scan none c rest := by
    obtain rfl | rfl | rfl := idle
    · rfl
    · rfl
    · rfl
  cases s with
  | nil => rw [lexemes, lexemesAfter, lexemesAfter]
  | cons c s => rw [lexemes, lexemesAfter, lexemesAfter, alone]

/-- A text behind blanks, of which nothing but idle units is made. -/
theorem idle_of_behind {before : Token} {lead s : List Char} {ls : List Lexeme}
    (hb : Idle before) (blank : ∀ c ∈ lead, Text.isBlank c)
    (hs : ∀ c ∈ s.head?, Text.isBlank c = false)
    (h : lexemesAfter (some before) (lead ++ s) = .ok ls) (idle : ∀ l ∈ ls, Idle l.token) :
    ∃ ls, lexemes s = .ok ls ∧ ∀ l ∈ ls, Idle l.token := by
  -- On the length of the lead, since a carriage return takes a line feed with it.
  induction hn : lead.length using Nat.strongRecOn generalizing lead before ls with
  | _ n ih =>
  cases lead with
  | nil =>
    rw [List.nil_append, lexemesAfter_idle hb] at h
    exact ⟨ls, h, idle⟩
  | cons c lead =>
    cases ls with
    | nil =>
      have := source_lexemesAfter h
      cases this
    | cons l ls =>
      obtain ⟨hl, hls⟩ := List.forall_mem_cons.1 idle
      obtain ⟨hc, hlead⟩ := List.forall_mem_cons.1 blank
      rw [List.cons_append] at h
      obtain ⟨m, hscan, -, hrest⟩ := lexemesAfter_cons.1 h
      have start : isNameStart c = false := by
        obtain ⟨-, start⟩ | rfl | rfl | ⟨rfl, -⟩ | ⟨rfl, -⟩ := idle_inv hscan hl
        · exact start
        · rfl
        · rfl
        · rfl
        · rfl
      rw [scan_blank hc start] at hscan
      obtain ⟨-, rfl⟩ := Prod.mk.inj (Except.ok.inj hscan)
      split at hrest
      · next feed =>
        -- The line feed is a blank, so it belongs to the lead.
        cases lead with
        | nil =>
          have := hs '\n' feed.2
          cases this
        | cons d lead =>
          simp only [List.length_cons] at hn
          exact ih lead.length (by omega) hl (List.forall_mem_cons.1 hlead).2 hrest hls rfl
      · simp only [List.length_cons] at hn
        exact ih lead.length (by omega) hl hlead hrest hls rfl

end QueryGate.Sql
