import QueryGate.Proofs.Coverage
import QueryGate.Proofs.Layers
import QueryGate.Proofs.Unit.Cut
/-!
# The same literals

What the lexical layer blanks and what the grammar takes for the inside of a
quoted unit are the same characters of an accepted text, except behind a bit
literal with a backslash in it and behind a name with a mark in it.
`literals_of_check` says when.
-/

namespace QueryGate.Sql

/-! ## The inside of a unit -/

/-- All characters but the last, which is the closing mark. -/
def untilClosing : List Char → List Bool
  | [] => []
  | [_] => [false]
  | _ :: s => true :: untilClosing s

/-- What follows the first mark, up to the last character. -/
def betweenMarks : List Char → List Bool
  | [] => []
  | c :: s => false :: if (Quote.ofChar? c).isSome then untilClosing s else betweenMarks s

/-- Which characters of a unit are between its marks. -/
def Lexeme.interior (l : Lexeme) : List Bool :=
  if l.token.isQuoted then betweenMarks l.source else List.replicate l.source.length false

/-- The two ways in which blanking reads a unit otherwise than the grammar does.
`behind` is the text after the unit. -/
inductive Lexeme.Apart : Lexeme → List Char → Prop where
  /-- A backslash escapes nothing in bits. If it did, they would end elsewhere. -/
  | bits {content : List Char} {letter mark : Char} {inner : List Char} (behind : List Char)
      (moves : Token.closing mark true inner ≠ some inner.length) :
      Apart ⟨.text .bits content, letter :: mark :: inner⟩ behind
  /-- A mark behind two at signs belongs to a name and opens no literal. -/
  | name {text : List Char} {key : String} (q : Quote) {r behind : List Char}
      (goesOn : r ++ behind ≠ []) :
      Apart ⟨.word text (some key), '@' :: '@' :: q.char :: r⟩ behind

/-- Whether a unit among those of a text is read apart, with `more` behind the
text. -/
inductive ApartIn (more : List Char) : List Lexeme → Prop where
  | here {l : Lexeme} {ls : List Lexeme} (h : l.Apart (ls.flatMap Lexeme.source ++ more)) :
      ApartIn more (l :: ls)
  | later (l : Lexeme) {ls : List Lexeme} (h : ApartIn more ls) : ApartIn more (l :: ls)

/-- What stands behind matters only by being there. -/
theorem Lexeme.Apart.behind {l : Lexeme} {s t : List Char} (h : l.Apart s) (ht : t ≠ []) :
    l.Apart t := by
  cases h with
  | bits _ moves => exact .bits t moves
  | name q _ => exact .name q (by simp [ht])

theorem ApartIn.behind {s t : List Char} {ls : List Lexeme} (h : ApartIn s ls) (ht : t ≠ []) :
    ApartIn t ls := by
  induction h with
  | here apart => exact .here (apart.behind (by simp [ht]))
  | later l _ ih => exact .later l ih

theorem length_untilClosing (s : List Char) : (untilClosing s).length = s.length := by
  fun_induction untilClosing s <;> simp_all

theorem untilClosing_eq {s : List Char} {n : Nat} (h : s.length = n + 1) :
    untilClosing s = List.replicate n true ++ [false] := by
  induction n generalizing s with
  | zero =>
    obtain ⟨c, rfl⟩ := List.length_eq_one_iff.1 h
    rfl
  | succ n ih =>
    obtain ⟨c, s, rfl⟩ := List.exists_cons_of_length_eq_add_one h
    have shorter : s.length = n + 1 := by simpa using h
    obtain ⟨d, t, rfl⟩ := List.exists_cons_of_length_eq_add_one shorter
    rw [untilClosing, ih shorter]
    · rfl
    · simp

theorem betweenMarks_unmarked {s : List Char} (h : Unmarked s) :
    betweenMarks s = List.replicate s.length false := by
  induction s with
  | nil => rfl
  | cons c s ih =>
    obtain ⟨hc, hs⟩ := List.forall_mem_cons.1 h
    rw [betweenMarks, hc, ih hs]
    rfl

theorem betweenMarks_quoted {lead : List Char} (h : Unmarked lead) (q : Quote) (inner : List Char) :
    betweenMarks (lead ++ q.char :: inner) =
      List.replicate lead.length false ++ false :: untilClosing inner := by
  induction lead with
  | nil => simp [betweenMarks]
  | cons c lead ih =>
    obtain ⟨hc, hs⟩ := List.forall_mem_cons.1 h
    rw [List.cons_append, betweenMarks, hc, ih hs]
    rfl

theorem Lexeme.length_interior (l : Lexeme) : l.interior.length = l.source.length := by
  unfold interior
  split
  · induction l.source with
    | nil => rfl
    | cons c s ih =>
      rw [betweenMarks]
      split
      · simp [length_untilClosing]
      · simp [ih]
  · simp

theorem length_interiors (ls : List Lexeme) :
    (ls.flatMap Lexeme.interior).length = (ls.flatMap Lexeme.source).length := by
  induction ls with
  | nil => rfl
  | cons l ls ih => simp [ih, l.length_interior]

theorem Lexeme.interior_unmarked {l : Lexeme} (h : Unmarked l.source) :
    l.interior = List.replicate l.source.length false := by
  unfold interior
  split
  · exact betweenMarks_unmarked h
  · rfl

/-! ## Blanking a unit -/

/-- A literal is blanked up to its closing mark, and live SQL goes on behind it. -/
theorem blanked_closing {q : Quote} {inner behind : List Char}
    (h : Token.closing q.char q.escapes (inner ++ behind) = some inner.length) :
    blanked (.inside q) (inner ++ behind) = untilClosing inner ++ blanked .live behind := by
  obtain ⟨n, hn, same⟩ | ⟨hn, -⟩ := blanked_inside q (inner ++ behind)
  · rw [h] at hn
    have length : inner.length = n + 1 := Option.some.inj hn
    rw [same, untilClosing_eq length, ← length, List.drop_left, List.append_assoc]
    rfl
  · rw [h] at hn
    cases hn

theorem blanked_quoted {lead inner behind : List Char} {q : Quote} (hl : Unmarked lead)
    (h : Token.closing q.char q.escapes (inner ++ behind) = some inner.length) :
    blanked .live (lead ++ q.char :: inner ++ behind) =
      betweenMarks (lead ++ q.char :: inner) ++ blanked .live behind := by
  rw [betweenMarks_quoted hl, List.append_assoc, List.cons_append, blanked_live hl, blanked_opening,
    blanked_closing h]
  simp

/-- Bits end where they would end if backslashes escaped. -/
theorem closing_bits {content : List Char} {letter : Char} {inner behind : List Char} {q : Quote}
    (h : Token.closing q.char false (inner ++ behind) = some inner.length)
    (together : ¬ Lexeme.Apart ⟨.text .bits content, letter :: q.char :: inner⟩ behind) :
    Token.closing q.char true (inner ++ behind) = some inner.length := by
  have own : Token.closing q.char true inner = some inner.length := by
    apply Decidable.byContradiction
    exact fun moves => together (.bits behind moves)
  have next := (Token.closing_of_append (Token.escapable q) h).2
  exact Token.closing_append (Token.escapable q) own (.inr next)

/-- Of a unit that is read alike, what is between its marks is blanked. -/
theorem blanked_unit {l : Lexeme} {behind : List Char} (cut : Token.Cut l.token l.source behind)
    (live : l.token ≠ .comment) (together : ¬ l.Apart behind) :
    blanked .live (l.source ++ behind) = l.interior ++ blanked .live behind := by
  obtain ⟨token, source⟩ := l
  cases cut with
  | plain _ _ _ unmarked =>
    rw [Lexeme.interior_unmarked unmarked]
    exact blanked_live unmarked behind
  | comment => cases live rfl
  | quoted _ kind _ word closes =>
    rw [Lexeme.interior, if_pos kind]
    exact blanked_quoted (unmarked_of_word word) closes
  | @bits content letter inner _ q initial escapes closes =>
    have alike := closing_bits closes together
    rw [← escapes] at alike
    have word : ∀ c ∈ [letter], isNameStart c := by simpa using initial
    exact blanked_quoted (unmarked_of_word word) alike
  | @marked text key q r _ unmarked =>
    have last : r ++ behind = [] := by
      apply Decidable.byContradiction
      exact fun goesOn => together (.name q goesOn)
    obtain ⟨rfl, rfl⟩ := List.append_eq_nil_iff.1 last
    cases q <;> rfl

/-! ## Blanking the units of a text -/

theorem cover_false (s t : List Char) (hs : List Bool) :
    cover (List.replicate s.length false ++ hs) (s ++ t) = s ++ cover hs t := by
  induction s with
  | nil => rfl
  | cons c s ih => simp [List.replicate_succ, cover, ih]

/-- Nothing of a text without marks is blanked where live SQL goes on. -/
theorem cover_live {s : List Char} (h : Unmarked s) (t : List Char) :
    cover (blanked .live (s ++ t)) (s ++ t) = s ++ cover (blanked .live t) t := by
  rw [blanked_live h, cover_false]

/-- Of units that are read alike, none of them a comment, what is between the
marks is blanked. -/
theorem blanked_units {more : List Char} {ls : List Lexeme} (h : Units more ls)
    (live : ∀ l ∈ ls, l.token ≠ .comment) (together : ¬ ApartIn more ls) :
    blanked .live (ls.flatMap Lexeme.source ++ more) =
      ls.flatMap Lexeme.interior ++ blanked .live more := by
  induction h with
  | nil => rfl
  | @cons l ls _ cut _ ih =>
    obtain ⟨hl, hls⟩ := List.forall_mem_cons.1 live
    have alike : ¬ l.Apart (ls.flatMap Lexeme.source ++ more) := fun apart => together (.here apart)
    rw [List.flatMap_cons, List.flatMap_cons, List.append_assoc, blanked_unit cut hl alike,
      ih hls fun apart => together (.later l apart), List.append_assoc]

/-- Behind units that are read alike the mark of the first comment is seen. -/
theorem comment_seen {more : List Char} {ls : List Lexeme} (h : Units more ls)
    (together : ¬ ApartIn more ls) (comment : ∃ l ∈ ls, l.token = .comment) :
    ∃ mark ∈ Token.commentMarks, ∃ pre post,
      cover (blanked .live (ls.flatMap Lexeme.source ++ more)) (ls.flatMap Lexeme.source ++ more) =
        pre ++ mark.toList ++ post := by
  induction h with
  | nil => simp at comment
  | @cons l ls _ cut _ ih =>
    have alike : ¬ l.Apart (ls.flatMap Lexeme.source ++ more) := fun apart => together (.here apart)
    rw [List.flatMap_cons, List.append_assoc]
    by_cases first : l.token = .comment
    · obtain ⟨token, source⟩ := l
      subst first
      cases cut with
      | plain _ live => cases live rfl
      | comment _ mark known begins =>
        obtain ⟨body, rfl⟩ := begins
        exact ⟨_, known, [], _, by
          rw [List.append_assoc]
          exact cover_live (Token.unmarked_commentMarks _ known) _⟩
      | quoted _ kind => cases kind
    · -- What is blanked up to here is within the unit, so the mark behind it is live.
      have later : ∃ l ∈ ls, l.token = .comment := by simpa [first] using comment
      obtain ⟨mark, known, pre, post, seen⟩ := ih (fun apart => together (.later l apart)) later
      refine ⟨mark, known, cover l.interior l.source ++ pre, post, ?_⟩
      rw [blanked_unit cut first alike, cover_append l.length_interior, seen]
      simp

/-! ## What is blanked tells the units -/

theorem replicate_until {m n : Nat} {s t : List Bool}
    (h : List.replicate m true ++ false :: s = List.replicate n true ++ false :: t) : m = n := by
  induction m generalizing n with
  | zero =>
    cases n with
    | zero => rfl
    | succ n => cases h
  | succ m ih =>
    cases n with
    | zero => cases h
    | succ n => rw [ih (List.cons.inj h).2]

/-- Bits that hide what is between their marks end alike with escapes. -/
theorem closing_of_blanked {q : Quote} {inner behind : List Char} {tail : List Bool}
    (hi : inner ≠ []) (h : blanked (.inside q) (inner ++ behind) = untilClosing inner ++ tail) :
    Token.closing q.char q.escapes inner = some inner.length := by
  obtain ⟨m, length⟩ : ∃ m, inner.length = m + 1 := ⟨inner.length - 1, by
    have := List.length_pos_iff.2 hi
    omega⟩
  rw [untilClosing_eq length, List.append_assoc] at h
  obtain ⟨n, hn, same⟩ | ⟨-, same⟩ := blanked_inside q (inner ++ behind)
  · rw [same] at h
    rw [replicate_until h, ← length] at hn
    exact (Token.closing_of_append (Token.escapable q) hn).1
  · rw [same] at h
    have kept : false ∈ List.replicate m true ++ ([false] ++ tail) := by simp
    rw [← h] at kept
    simp at kept

/-- A literal whose first character is kept is closed by it. -/
theorem first_of_blanked {q : Quote} {c : Char} {s : List Char} {tail : List Bool}
    (h : blanked (.inside q) (c :: s) = false :: tail) :
    c = q.char ∧ s.head? ≠ some q.char ∧ blanked .live s = tail := by
  cases s with
  | nil =>
    obtain ⟨kept, rfl⟩ := List.cons.inj h
    exact ⟨by simpa using kept, by simp, rfl⟩
  | cons d s =>
    rw [blanked] at h
    split at h
    · cases h
    split at h
    · split at h
      · cases h
      · next closing other => exact ⟨closing, by simpa using other, (List.cons.inj h).2⟩
    · cases h

theorem blanked_live_first (c : Char) (s : List Char) :
    ∃ tail, blanked .live (c :: s) = false :: tail := by
  rw [blanked]
  split
  · exact ⟨_, rfl⟩
  · exact ⟨_, rfl⟩

theorem Lexeme.interior_first (token : Token) (c : Char) (s : List Char) :
    ∃ tail, Lexeme.interior ⟨token, c :: s⟩ = false :: tail := by
  unfold interior
  split
  · exact ⟨_, rfl⟩
  · exact ⟨_, rfl⟩

theorem Lexeme.interior_mark {token : Token} (kind : token.isQuoted) (q : Quote) (s : List Char) :
    Lexeme.interior ⟨token, q.char :: s⟩ = false :: untilClosing s := by
  rw [interior, if_pos kind]
  exact betweenMarks_quoted unmarked_nil q s

/-- A literal is not blanked as one where its first mark closes another. -/
theorem not_reopened {q : Quote} {s behind : List Char} {tail : List Bool}
    (closes : Token.closing q.char q.escapes (s ++ behind) = some s.length)
    (next : (s ++ behind).head? ≠ some q.char) :
    blanked .live (s ++ behind) ≠ untilClosing s ++ tail := by
  intro same
  cases s with
  | nil => exact absurd (Token.closing_pos closes) (Nat.lt_irrefl 0)
  | cons c s =>
    cases s with
    | nil =>
      have kept : blanked (.inside q) (c :: behind) = _ := blanked_closing closes
      exact next (congrArg some (first_of_blanked kept).1)
    | cons d s =>
      obtain ⟨tail, first⟩ := blanked_live_first c (d :: s ++ behind)
      rw [List.cons_append, first] at same
      cases same

/-- A name with a mark in it is read alike only at the end of the text. -/
theorem last_of_blanked {q : Quote} {r : List Char} {ls : List Lexeme} (units : Units [] ls)
    (live : ∀ l ∈ ls, l.token ≠ .comment) (unmarked : Unmarked r)
    (h : blanked (.inside q) (r ++ ls.flatMap Lexeme.source) =
      List.replicate r.length false ++ ls.flatMap Lexeme.interior) :
    r ++ ls.flatMap Lexeme.source = [] := by
  cases r with
  | cons c r =>
    have closing := (first_of_blanked h).1
    exact absurd (closing ▸ unmarked) (not_unmarked q r)
  | nil =>
    cases units with
    | nil => rfl
    | @cons l ls filled cut _ =>
      obtain ⟨token, source⟩ := l
      obtain ⟨c, s, rfl⟩ := List.exists_cons_of_ne_nil filled
      obtain ⟨tail, interior⟩ := Lexeme.interior_first token c s
      rw [List.flatMap_cons, List.flatMap_cons, interior] at h
      obtain ⟨rfl, next, same⟩ := first_of_blanked h
      -- The unit behind the name begins with the mark, so it is a literal.
      rw [List.append_nil] at cut
      obtain ⟨kind, closes⟩ := cut.mark_inv (live _ List.mem_cons_self)
      obtain rfl : untilClosing s = tail :=
        (List.cons.inj ((Lexeme.interior_mark kind q s).symm.trans interior)).2
      exact absurd same (not_reopened closes next)

/-- Bits of which just what is between the marks is blanked close alike with
escapes. -/
theorem closing_of_bits {content : List Char} {letter mark : Char} {inner behind : List Char}
    {tail : List Bool} (cut : Token.Cut (.text .bits content) (letter :: mark :: inner) behind)
    (h : blanked .live (letter :: mark :: inner ++ behind) =
      Lexeme.interior ⟨.text .bits content, letter :: mark :: inner⟩ ++ tail) :
    Token.closing mark true inner = some inner.length := by
  obtain ⟨_, q, _, same, unmarked, escapes, closes⟩ := cut.bits_inv
  cases same
  have left : blanked .live (letter :: q.char :: inner ++ behind) =
      false :: false :: blanked (.inside q) (inner ++ behind) := by
    rw [List.cons_append, List.cons_append, blanked, unmarked, blanked_opening]
  have right : Lexeme.interior ⟨.text .bits content, letter :: q.char :: inner⟩ =
      false :: false :: untilClosing inner := by
    simp [Lexeme.interior, Token.isQuoted, betweenMarks, unmarked]
  rw [left, right] at h
  have alike := (List.cons.inj (List.cons.inj h).2).2
  have filled : inner ≠ [] := by
    rintro rfl
    exact absurd (Token.closing_pos closes) (Nat.lt_irrefl 0)
  have own := closing_of_blanked filled alike
  rwa [escapes] at own

theorem last_of_name {text : List Char} {key : String} {q : Quote} {r : List Char}
    {ls : List Lexeme}
    (cut : Token.Cut (.word text (some key)) ('@' :: '@' :: q.char :: r)
      (ls.flatMap Lexeme.source))
    (units : Units [] ls) (live : ∀ l ∈ ls, l.token ≠ .comment)
    (h : blanked .live ('@' :: '@' :: q.char :: r ++ ls.flatMap Lexeme.source) =
      Lexeme.interior ⟨.word text (some key), '@' :: '@' :: q.char :: r⟩ ++
        ls.flatMap Lexeme.interior) :
    r ++ ls.flatMap Lexeme.source = [] := by
  obtain unmarked | ⟨_, _, same, unmarked⟩ := cut.name_inv
  · exact absurd (fun c hc => unmarked c (by simp [hc])) (not_unmarked q r)
  obtain ⟨-, rfl⟩ := List.cons.inj (List.cons.inj (List.cons.inj same).2).2
  have left : blanked .live ('@' :: '@' :: q.char :: r ++ ls.flatMap Lexeme.source) =
      false :: false :: false :: blanked (.inside q) (r ++ ls.flatMap Lexeme.source) := by
    rw [List.cons_append, List.cons_append, List.cons_append, ← blanked_opening]
    rfl
  have right : Lexeme.interior ⟨.word text (some key), '@' :: '@' :: q.char :: r⟩ =
      false :: false :: false :: List.replicate r.length false := rfl
  rw [left, right] at h
  exact last_of_blanked units live unmarked
    (List.cons.inj (List.cons.inj (List.cons.inj h).2).2).2

/-- A unit of which just what is between its marks is blanked is read alike. -/
theorem not_apart {l : Lexeme} {ls : List Lexeme}
    (cut : Token.Cut l.token l.source (ls.flatMap Lexeme.source)) (units : Units [] ls)
    (live : ∀ l ∈ ls, l.token ≠ .comment)
    (h : blanked .live (l.source ++ ls.flatMap Lexeme.source) =
      l.interior ++ ls.flatMap Lexeme.interior) :
    ¬ l.Apart (ls.flatMap Lexeme.source) := by
  intro apart
  generalize hb : ls.flatMap Lexeme.source = behind at apart
  cases apart with
  | bits _ moves => exact moves (closing_of_bits cut h)
  | name q goesOn =>
    subst hb
    exact goesOn (last_of_name cut units live h)

theorem not_apartIn {ls : List Lexeme} (units : Units [] ls) (live : ∀ l ∈ ls, l.token ≠ .comment)
    (h : blanked .live (ls.flatMap Lexeme.source) = ls.flatMap Lexeme.interior) :
    ¬ ApartIn [] ls := by
  induction units with
  | nil => exact nofun
  | @cons l ls _ cut units ih =>
    obtain ⟨hl, hls⟩ := List.forall_mem_cons.1 live
    rw [List.append_nil] at cut
    have together : ¬ l.Apart (ls.flatMap Lexeme.source) := not_apart cut units hls h
    rw [List.flatMap_cons, blanked_unit cut hl together] at h
    intro apart
    cases apart with
    | here apart => exact together (by simpa using apart)
    | later _ apart => exact ih hls (List.append_cancel_left h) apart

end QueryGate.Sql

namespace QueryGate.Gate

open QueryGate.Sql

/-- Both layers read the same literals, and neither reads a comment. -/
structure Agree (sql : List Char) (ls : List Lexeme) : Prop where
  blanked : blanked .live sql = ls.flatMap Lexeme.interior
  stripped : stripLiterals sql = cover (ls.flatMap Lexeme.interior) sql
  live : ∀ l ∈ ls, l.token ≠ .comment

theorem units_of_lexemes {sql : List Char} {ls : List Lexeme} (h : lexemes sql = .ok ls) :
    Units [] ls :=
  units_of_lexemesAfter h (by simp)

/-- Units that are read alike, none of them a comment, are the same to both layers. -/
theorem agree_of_live {sql : List Char} {ls : List Lexeme} (hl : lexemes sql = .ok ls)
    (live : ∀ l ∈ ls, l.token ≠ .comment) (together : ¬ ApartIn [] ls) : Agree sql ls := by
  have same : blanked .live sql = ls.flatMap Lexeme.interior := by
    simpa [source_lexemes hl, blanked] using blanked_units (units_of_lexemes hl) live together
  exact ⟨same, by rw [stripLiterals_eq, same], live⟩

/-- No comment is among the units that an accepted text begins with, as long as
they are read alike. -/
theorem live_of_check {text more : List Char} {kind : Kind} {ls : List Lexeme}
    (h : check text = .ok kind) (whole : Text.trim text = ls.flatMap Lexeme.source ++ more)
    (units : Units more ls) (together : ¬ ApartIn more ls) : ∀ l ∈ ls, l.token ≠ .comment := by
  intro l hmem comment
  obtain ⟨mark, known, pre, post, seen⟩ := comment_seen units together ⟨l, hmem, comment⟩
  rw [← whole, ← stripLiterals_eq] at seen
  obtain ⟨-, -, quiet, -⟩ := Lexical.check_eq_ok_iff.1 (check_eq_ok_iff.1 h).2
  have rule : Lexical.Rule.mark mark ∈ Lexical.rules :=
    List.mem_flatten_of_mem (l := Token.commentMarks.map .mark) (by simp [Token.commentMarks])
      (List.mem_map_of_mem known)
  refine quiet _ rule ?_
  rw [seen, Lexical.Rule.mark, Lexical.Rule.fires, List.any_cons, Text.Pattern.occurs_word]
  rfl

/-- In an accepted text, what the lexical layer blanks is what stands between the
marks of the quoted units, and no unit is a comment: exactly if no unit is read
apart. -/
theorem literals_of_check {text : List Char} {kind : Kind} (h : check text = .ok kind) :
    ∃ ls, lexemes (Text.trim text) = .ok ls ∧
      (Agree (Text.trim text) ls ↔ ¬ ApartIn [] ls) := by
  obtain ⟨s, hread, -⟩ := bind_eq_ok.1 (check_eq_ok_iff.1 h).1
  obtain ⟨ls, hl, -⟩ := readStatement_ok hread
  have units := units_of_lexemes hl
  refine ⟨ls, hl, fun agree => ?_, fun together => ?_⟩
  · exact not_apartIn units agree.live (source_lexemes hl ▸ agree.blanked)
  · exact agree_of_live hl (live_of_check h (by simp [source_lexemes hl]) units together) together

theorem literals_of_check_escaped :
    check "SELECT 'it\\'s', `a--b`".toList = .ok .select ∧
      ∃ ls, lexemes (Text.trim "SELECT 'it\\'s', `a--b`".toList) = .ok ls ∧
        (Agree (Text.trim "SELECT 'it\\'s', `a--b`".toList) ls ↔ ¬ ApartIn [] ls) :=
  have h : check "SELECT 'it\\'s', `a--b`".toList = .ok .select :=
    check_of_passes (by decide +kernel) (by decide +kernel)
  ⟨h, literals_of_check h⟩

/-- A comment behind bits is taken for a part of them, and let through. -/
theorem comment_behind_bits_accepted :
    check "SELECT b'\\' -- x".toList = .ok .select ∧
      ∃ ls, lexemes (Text.trim "SELECT b'\\' -- x".toList) = .ok ls ∧
        (∃ l ∈ ls, l.token = .comment) ∧ ¬ Agree (Text.trim "SELECT b'\\' -- x".toList) ls := by
  have h : check "SELECT b'\\' -- x".toList = .ok .select :=
    check_of_passes (by decide +kernel) (by decide +kernel)
  have comment : (lexemes (Text.trim "SELECT b'\\' -- x".toList)).map
      (fun ls => ls.any (·.token = .comment)) = .ok true := by
    decide +kernel
  obtain ⟨ls, hl, has⟩ := map_eq_ok.1 comment
  obtain ⟨l, hmem, hl'⟩ := List.any_eq_true.1 has
  have token : l.token = .comment := by simpa using hl'
  exact ⟨h, ls, hl, ⟨l, hmem, token⟩, fun agree => agree.live l hmem token⟩

end QueryGate.Gate
