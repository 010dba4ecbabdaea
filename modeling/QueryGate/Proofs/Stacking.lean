import Mathlib.Data.List.Basic
import QueryGate.Proofs.Count
import QueryGate.Proofs.Literals
import QueryGate.Proofs.Text.Trim
import QueryGate.Proofs.Unit.Idle
/-!
# Stacked statements

Two statements with a semicolon between them do not pass: the grammar counts two,
or, where a comment keeps the semicolon from it, the lexical layer sees the mark
of the comment or the semicolon itself. What is between marks is counted by
neither layer. `separators` says both, and when: units that the layers read apart
may hide a semicolon from both of them.
-/

namespace QueryGate.Gate.Lexical

open Text (allBlank isBlank)

/-! ## A semicolon at the end -/

theorem semicolon_not_mem {s : List Char} (h : allBlank s) : ';' ∉ s := by
  intro hmem
  have := Text.allBlank_iff.1 h ';' hmem
  cases this

theorem before_semicolon (t : List Char) (c : Char) :
    (Text.before? [';'] (t ++ [c])).getD (t ++ [c]) = if c = ';' then t else t ++ [c] := by
  by_cases same : c = ';'
  · simp [Text.before?, Text.after?, same]
  · simp [Text.before?, Text.after?, same, Ne.symm same]

/-- The last character that is no blank may be a semicolon, none before it. -/
theorem isSingle_iff_dropLast {s : List Char} :
    isSingle s ↔ ';' ∉ (Text.trimEnd s).dropLast := by
  unfold isSingle
  obtain none | ⟨t, c, last⟩ := List.eq_nil_or_concat (Text.trimEnd s)
  · rw [none]
    exact iff_of_true rfl (by simp)
  · rw [List.concat_eq_append] at last
    simp only [last, before_semicolon, List.dropLast_concat]
    split
    · simp
    · next other => simp [Ne.symm other]

/-- A single statement has nothing but blanks behind any semicolon. -/
theorem isSingle_iff {s : List Char} :
    isSingle s ↔ ∀ pre post, s = pre ++ ';' :: post → allBlank post := by
  rw [isSingle_iff_dropLast]
  obtain ⟨tail, same, blank⟩ := Text.exists_trimEnd s
  have behind := semicolon_not_mem blank
  obtain none | ⟨t, c, last⟩ := List.eq_nil_or_concat (Text.trimEnd s)
  · rw [none, List.nil_append] at same
    refine iff_of_true (by simp [none]) ?_
    rintro pre post hs
    rw [← same, hs] at behind
    simp at behind
  · rw [List.concat_eq_append] at last
    rw [last, List.append_assoc, List.singleton_append] at same
    rw [last, List.dropLast_concat]
    constructor
    · intro front pre post hs
      obtain ⟨-, -, rfl⟩ := (List.append_cons_inj_of_notMem front behind).1 (same.symm.trans hs)
      exact blank
    · intro h front
      obtain ⟨p, q, rfl⟩ := List.append_of_mem front
      have := Text.allBlank_iff.1 (h p (q ++ c :: tail) (by simpa using same)) c (by simp)
      rw [Text.last_trimEnd last] at this
      cases this

theorem isSingle_append {s t : List Char} :
    isSingle (s ++ t) ↔ isSingle s ∧ isSingle t ∧ (';' ∈ s → allBlank t) := by
  simp only [isSingle_iff]
  constructor
  · intro h
    refine ⟨fun pre post hs => ?_, fun pre post ht => ?_, fun hmem => ?_⟩
    · have := h pre (post ++ t) (by rw [hs]; simp)
      exact (Text.allBlank_append.1 this).1
    · exact h (s ++ pre) post (by rw [ht]; simp)
    · obtain ⟨pre, post, hs⟩ := List.append_of_mem hmem
      have := h pre (post ++ t) (by rw [hs]; simp)
      exact (Text.allBlank_append.1 this).2
  · rintro ⟨hs, ht, hmem⟩ pre post same
    obtain ⟨q, rfl, hq⟩ | ⟨q, rfl, hq⟩ := List.append_eq_append_iff.1 same
    · exact ht q post hq
    · cases q with
      | nil => exact ht [] post hq.symm
      | cons d q =>
        obtain ⟨rfl, rfl⟩ := List.cons.inj hq
        exact Text.allBlank_append.2 ⟨hs pre q rfl, hmem (by simp)⟩

end QueryGate.Gate.Lexical

namespace QueryGate.Gate

open QueryGate.Sql
open Text (allBlank isBlank trim trimStart trimEnd)

/-! ## What the lexical layer sees of a separator -/

theorem unmarked_blank {s : List Char} (h : allBlank s) : Unmarked s := by
  intro c hc
  cases hq : Quote.ofChar? c with
  | none => rfl
  | some q =>
    have := Text.allBlank_iff.1 h c hc
    rw [Quote.ofChar?_eq_some.1 hq] at this
    cases q <;> cases this

/-- Whether no unit of the text is read apart, with `more` behind the text. -/
def ReadAlike (more text : List Char) : Prop :=
  ∃ ls, lexemes (trim text) = .ok ls ∧ ¬ ApartIn more ls

theorem not_apartIn_of_readAlike {more text : List Char} {ls : List Lexeme}
    (h : ReadAlike more text) (hl : lexemes (trim text) = .ok ls) : ¬ ApartIn more ls := by
  obtain ⟨_, same, together⟩ := h
  cases hl.symm.trans same
  exact together

/-- Texts without bits and at signs are read alike. -/
theorem readAlike_of_plain {more text : List Char} {ls : List Lexeme}
    (hl : lexemes (trim text) = .ok ls)
    (plain : ∀ l ∈ ls, l.source.head? ≠ some '@' ∧ ∀ content, l.token ≠ .text .bits content) :
    ReadAlike more text := by
  refine ⟨ls, hl, fun apart => ?_⟩
  clear hl
  induction apart with
  | here apart =>
    obtain ⟨⟨sign, bits⟩, -⟩ := List.forall_mem_cons.1 plain
    cases apart with
    | bits => exact bits _ rfl
    | name => exact sign rfl
  | later _ _ ih => exact ih (List.forall_mem_cons.1 plain).2

/-- The first character that is no blank is kept. -/
theorem not_allBlank_cover {s : List Char} (h : ¬ allBlank s) :
    ¬ allBlank (cover (blanked .live s) s) := by
  obtain ⟨lead, same, blank⟩ := Text.exists_trimStart s
  rw [same, cover_live (unmarked_blank blank), Text.allBlank_append, not_and]
  intro _
  have some : trimStart s ≠ [] := mt Text.trimStart_eq_nil.1 h
  obtain ⟨c, t, first⟩ := List.exists_cons_of_ne_nil some
  have visible := Text.head_trimStart s c (by rw [first]; rfl)
  obtain ⟨tail, kept⟩ := blanked_live_first c t
  rw [first, kept]
  simp [cover, allBlank, visible]

/-- Units are cut from a text as they were with blanks and a semicolon behind it. -/
theorem units_separated {tail more : List Char} {sql : List Char} {ls : List Lexeme}
    (blank : allBlank tail) (hl : lexemes sql = .ok ls) : Units (tail ++ ';' :: more) ls := by
  refine units_of_lexemesAfter hl fun q hq => ?_
  cases tail with
  | nil => cases q <;> cases hq
  | cons c tail =>
    obtain rfl := Option.some.inj hq
    have := Text.allBlank_iff.1 blank q.char (by simp)
    cases q <;> cases this

/-- Of the text with the separator, the separator is left and what is behind it,
live SQL. -/
theorem cover_separated {front tail more : List Char} {ls : List Lexeme} (blank : allBlank tail)
    (source : ls.flatMap Lexeme.source = front) (units : Units (tail ++ ';' :: more) ls)
    (live : ∀ l ∈ ls, l.token ≠ .comment) (together : ¬ ApartIn (tail ++ ';' :: more) ls) :
    ∃ pre, stripLiterals (front ++ (tail ++ ';' :: more)) =
      pre ++ ';' :: cover (blanked .live more) more := by
  subst source
  have unmarked : Unmarked (tail ++ [';']) :=
    unmarked_append.2 ⟨unmarked_blank blank, by simp [Unmarked, Quote.ofChar?, Quote.char]⟩
  have joint : tail ++ ';' :: more = tail ++ [';'] ++ more := by simp
  refine ⟨cover (ls.flatMap Lexeme.interior) (ls.flatMap Lexeme.source) ++ tail, ?_⟩
  rw [stripLiterals_eq, blanked_units units live together, cover_append (length_interiors ls),
    joint, cover_live unmarked]
  simp

/-- Behind units that are read alike the separator is seen. -/
theorem separator_seen {a b : List Char} {as : List Lexeme} {kind : Kind}
    (ha : ¬ allBlank a) (hb : ¬ allBlank b) (hl : lexemes (trim a) = .ok as)
    (together : ¬ ApartIn [';'] as) : check (a ++ ';' :: b) ≠ .ok kind := by
  intro h
  obtain ⟨tail, front, blank⟩ := Text.exists_trim_tail a
  have whole : trim (a ++ ';' :: b) = trim a ++ (tail ++ ';' :: trimEnd b) := by
    rw [Text.trim_between ha rfl, front, List.append_assoc]
  -- The tokenizer may read on past the separator; what is blanked does not depend on it.
  have units : Units (tail ++ ';' :: trimEnd b) as := units_separated blank hl
  have apart : ¬ ApartIn (tail ++ ';' :: trimEnd b) as := fun apart =>
    together (apart.behind (by simp))
  have live := live_of_check h (by rw [whole, source_lexemes hl]) units apart
  obtain ⟨pre, stripped⟩ := cover_separated blank (source_lexemes hl) units live apart
  rw [← whole] at stripped
  obtain ⟨-, single, -, -⟩ := Lexical.check_eq_ok_iff.1 (check_eq_ok_iff.1 h).2
  have behind := Lexical.isSingle_iff.1 single _ _ stripped
  exact not_allBlank_cover (mt Text.allBlank_trimEnd.1 hb) behind

/-! ## What the grammar sees of a separator -/

/-- Whether the semicolon between two texts is read as a unit of its own. -/
def SeparatorRead (a b : List Char) : Prop :=
  ∃ front back, lexemes (trim (a ++ ';' :: b)) = .ok (front ++ ⟨.symbol ";", [';']⟩ :: back) ∧
    front.flatMap Lexeme.source = trimStart a

theorem not_idle_of_count {ls : List Lexeme} (h : countStatements false (ls.map Lexeme.token) = 1) :
    ¬ ∀ l ∈ ls, l.token.Idle := by
  intro idle
  have none : countStatements false (ls.map Lexeme.token) = 0 :=
    countStatements_eq_zero.2 (by simpa using idle)
  omega

theorem not_allBlank_of_readStatement {text : List Char} {s : Statement}
    (h : readStatement text = .ok s) : ¬ allBlank text := by
  intro blank
  rw [readStatement, Text.trim_eq_nil.2 blank] at h
  cases h

/-- A statement in front of the separator is counted. -/
theorem front_counted {a b : List Char} {s : Statement} {front back : List Lexeme}
    (ha : readStatement a = .ok s)
    (hl : lexemes (trim (a ++ ';' :: b)) = .ok (front ++ ⟨.symbol ";", [';']⟩ :: back))
    (covers : front.flatMap Lexeme.source = trimStart a) :
    countStatements false (front.map Lexeme.token) ≠ 0 := by
  intro none
  have idle : ∀ l ∈ front, l.token.Idle := by simpa using countStatements_eq_zero.1 none
  obtain ⟨as, hla, one⟩ := count_of_readStatement ha
  obtain ⟨tail, htail, blank⟩ := Text.exists_trim_tail a
  have stops : Token.Stops (tail ++ ';' :: trimEnd b) := by
    intro c hc
    cases tail with
    | nil => exact .inr (Option.some.inj hc).symm
    | cons d tail => exact .inl (Text.allBlank_iff.1 blank c (by simp_all))
  rw [Text.trim_between (not_allBlank_of_readStatement ha) rfl, htail, List.append_assoc] at hl
  rw [htail] at covers
  exact not_idle_of_count one (idle_of_front stops hla hl covers idle)

/-- A statement behind the separator is counted. -/
theorem back_counted {a b : List Char} {s : Statement} {front back : List Lexeme}
    (ha : ¬ allBlank a) (hb : readStatement b = .ok s)
    (hl : lexemes (trim (a ++ ';' :: b)) = .ok (front ++ ⟨.symbol ";", [';']⟩ :: back))
    (covers : front.flatMap Lexeme.source = trimStart a) :
    countStatements false (back.map Lexeme.token) ≠ 0 := by
  intro none
  have idle : ∀ l ∈ back, l.token.Idle := by simpa using countStatements_eq_zero.1 none
  obtain ⟨bs, hlb, one⟩ := count_of_readStatement hb
  obtain ⟨lead, hlead, blank⟩ := Text.exists_trim_lead (not_allBlank_of_readStatement hb)
  have source := source_lexemes hl
  rw [Text.trim_between ha rfl, List.flatMap_append, covers, List.flatMap_cons,
    List.append_cancel_left_eq] at source
  have same : back.flatMap Lexeme.source = lead ++ trim b := (List.cons.inj source).2.trans hlead
  have behind := lexemesAfter_behind hl
  rw [same] at behind
  obtain ⟨ls, hls, idle'⟩ :=
    idle_of_behind (.inl rfl) (Text.allBlank_iff.1 blank) (Text.head_trim b) behind idle
  cases hlb.symm.trans hls
  exact not_idle_of_count one idle'

/-- Two texts that each have a statement in them make two where the semicolon
between them is read. -/
theorem several_of_separator {a b : List Char} {s t : Statement} (ha : readStatement a = .ok s)
    (hb : readStatement b = .ok t) (separator : SeparatorRead a b) :
    readStatement (a ++ ';' :: b) = .error .multipleStatements := by
  obtain ⟨front, back, hl, covers⟩ := separator
  have before := front_counted ha hl covers
  have behind := back_counted (not_allBlank_of_readStatement ha) hb hl covers
  refine readStatement_multiple.2 ⟨_, hl, ?_⟩
  rw [List.map_append, List.map_cons, countStatements_append]
  omega

/-! ## Semicolons between marks -/

/-- A unit between marks, with the letter before them, if any. -/
def Quoted (l : Lexeme) : Prop := l.token.isQuoted ∧ ¬ Unmarked l.source

/-- Units that differ only where both are quoted. -/
inductive Requoted : List Lexeme → List Lexeme → Prop where
  | nil : Requoted [] []
  | same (l : Lexeme) {ls ls' : List Lexeme} (rest : Requoted ls ls') :
      Requoted (l :: ls) (l :: ls')
  | quoted {l l' : Lexeme} {ls ls' : List Lexeme} (h : Quoted l) (h' : Quoted l')
      (rest : Requoted ls ls') : Requoted (l :: ls) (l' :: ls')

theorem countStatements_quoted {l : Lexeme} (h : Quoted l) (filled : Bool) (ts : List Token) :
    countStatements filled (l.token :: ts) = countStatements true ts := by
  have solid : Solid l.token := by
    constructor <;> intro same <;> simp [Quoted, same, Token.isQuoted] at h
  refine countStatements_solid solid ?_ filled ts
  intro same
  simp [Quoted, same, Token.isQuoted] at h

/-- The count is blind to what quoted units say. -/
theorem countStatements_requoted {ls ls' : List Lexeme} (h : Requoted ls ls')
    (filled : Bool) :
    countStatements filled (ls.map Lexeme.token) =
      countStatements filled (ls'.map Lexeme.token) := by
  induction h generalizing filled with
  | nil => rfl
  | same l _ ih => simp only [List.map_cons, countStatements, ih]
  | quoted h h' _ ih =>
    rw [List.map_cons, List.map_cons, countStatements_quoted h, countStatements_quoted h', ih]

theorem live_requoted {ls ls' : List Lexeme} (h : Requoted ls ls')
    (live : ∀ l ∈ ls, l.token ≠ .comment) : ∀ l ∈ ls', l.token ≠ .comment := by
  induction h with
  | nil => exact live
  | same l _ ih =>
    obtain ⟨hl, hls⟩ := List.forall_mem_cons.1 live
    exact List.forall_mem_cons.2 ⟨hl, ih hls⟩
  | quoted _ h' _ ih =>
    obtain ⟨-, hls⟩ := List.forall_mem_cons.1 live
    refine List.forall_mem_cons.2 ⟨fun same => ?_, ih hls⟩
    simp [Quoted, same, Token.isQuoted] at h'

/-- What is left of a unit without what is between its marks. -/
def kept (l : Lexeme) : List Char := cover l.interior l.source

theorem cover_units (ls : List Lexeme) :
    cover (ls.flatMap Lexeme.interior) (ls.flatMap Lexeme.source) = ls.flatMap kept := by
  induction ls with
  | nil => rfl
  | cons l ls ih =>
    rw [List.flatMap_cons, List.flatMap_cons, List.flatMap_cons, cover_append l.length_interior, ih]
    rfl

theorem cover_untilClosing (inner : List Char) (mark : Char) :
    cover (untilClosing (inner ++ [mark])) (inner ++ [mark]) = inner.flatMap spaces ++ [mark] := by
  rw [untilClosing_eq (n := inner.length) (by simp)]
  induction inner with
  | nil => rfl
  | cons c inner ih => simp [List.replicate_succ, cover, ih]

theorem semicolon_not_mem_spaces (s : List Char) : ';' ∉ s.flatMap spaces := by
  simp [spaces]

/-- Of a quoted unit the letter, the marks and spaces are left. -/
theorem kept_quoted {l : Lexeme} {behind : List Char} (cut : Token.Cut l.token l.source behind)
    (h : Quoted l) : ';' ∉ kept l ∧ ¬ allBlank (kept l) := by
  obtain ⟨kind, marked⟩ := h
  obtain ⟨lead, q, inner, source, word, last⟩ := cut.quoted_inv kind marked
  obtain ⟨inner, rfl⟩ := List.getLast?_eq_some_iff.1 last
  have left : kept l = lead ++ q.char :: (inner.flatMap spaces ++ [q.char]) := by
    rw [kept, Lexeme.interior, if_pos kind, source,
      betweenMarks_quoted (unmarked_of_word word), cover_false, cover, cover_untilClosing]
    rfl
  have letters : ';' ∉ lead := fun hmem => absurd (word _ hmem) (by decide)
  have mark : ';' ≠ q.char ∧ isBlank q.char = false := by cases q <;> decide
  rw [left]
  constructor
  · simp only [List.mem_append, List.mem_cons, List.not_mem_nil, letters, mark.1,
      semicolon_not_mem_spaces, or_self, not_false_eq_true]
  · rw [Text.allBlank_iff]
    intro blank
    have := blank q.char (by simp)
    rw [mark.2] at this
    cases this

theorem isSingle_behind {s t : List Char} (h : ';' ∉ s) :
    Lexical.isSingle (s ++ t) ↔ Lexical.isSingle t := by
  have single : Lexical.isSingle s := Lexical.isSingle_iff.2 fun pre post same =>
    absurd (by simp [same]) h
  simp [Lexical.isSingle_append, single, h]

/-- So does the lexical layer not see what quoted units say. -/
theorem isSingle_requoted {more more' : List Char} {ls ls' : List Lexeme}
    (h : Requoted ls ls') (hu : Units more ls) (hu' : Units more' ls') :
    (Lexical.isSingle (ls.flatMap kept) ↔ Lexical.isSingle (ls'.flatMap kept)) ∧
      (allBlank (ls.flatMap kept) ↔ allBlank (ls'.flatMap kept)) := by
  induction h with
  | nil => exact ⟨.rfl, .rfl⟩
  | same l _ ih =>
    cases hu with
    | cons _ _ units =>
    cases hu' with
    | cons _ _ units' =>
    obtain ⟨single, blank⟩ := ih units units'
    simp only [List.flatMap_cons, Lexical.isSingle_append, Text.allBlank_append, single, blank,
      and_self]
  | quoted h h' _ ih =>
    cases hu with
    | cons _ cut units =>
    cases hu' with
    | cons _ cut' units' =>
    obtain ⟨single, blank⟩ := ih units units'
    obtain ⟨none, seen⟩ := kept_quoted cut h
    obtain ⟨none', seen'⟩ := kept_quoted cut' h'
    simp [isSingle_behind none, isSingle_behind none', Text.allBlank_append, single, seen, seen']

theorem stripLiterals_units {sql : List Char} {ls : List Lexeme} (hl : lexemes sql = .ok ls)
    (live : ∀ l ∈ ls, l.token ≠ .comment) (together : ¬ ApartIn [] ls) :
    stripLiterals sql = ls.flatMap kept := by
  rw [(agree_of_live hl live together).stripped, ← source_lexemes hl, cover_units]

/-- Texts that differ only inside their quoted units. -/
def SameOutside (text text' : List Char) : Prop :=
  ∃ ls ls', lexemes (trim text) = .ok ls ∧ lexemes (trim text') = .ok ls' ∧ Requoted ls ls'

/-- Whatever is between the marks of an accepted text, it is not taken for
several statements. -/
theorem single_of_sameOutside {text text' : List Char} {kind : Kind}
    (h : check text = .ok kind) (outside : SameOutside text text') (alike : ReadAlike [] text)
    (alike' : ReadAlike [] text') : check text' ≠ .error .multipleStatements := by
  intro several
  obtain ⟨ls, ls', hl, hl', requoted⟩ := outside
  have together := not_apartIn_of_readAlike alike hl
  have together' := not_apartIn_of_readAlike alike' hl'
  have live := live_of_check h (by simp [source_lexemes hl]) (units_of_lexemes hl) together
  -- The count is the same for both texts, and so is what is left of their semicolons.
  obtain counted | seen := multiple_of_check several
  · obtain ⟨s, hread, -⟩ := bind_eq_ok.1 (check_eq_ok_iff.1 h).1
    obtain ⟨_, same', more⟩ := readStatement_multiple.1 counted
    obtain ⟨_, same, one⟩ := count_of_readStatement hread
    cases hl.symm.trans same
    cases hl'.symm.trans same'
    rw [countStatements_requoted requoted] at one
    omega
  · obtain ⟨-, single, -, -⟩ := Lexical.check_eq_ok_iff.1 (check_eq_ok_iff.1 h).2
    rw [stripLiterals_units hl live together,
      (isSingle_requoted requoted (units_of_lexemes hl) (units_of_lexemes hl')).1,
      ← stripLiterals_units hl' (live_requoted requoted live) together'] at single
    exact seen single

/-! ## Both -/

/-- Of two texts that each are one statement, a semicolon between them makes no
text that passes: where the first is read alike, or the semicolon is a unit. And
of two texts that differ between marks only, if one is accepted the other is not
taken for several statements, whatever semicolons it has there: where both are
read alike. -/
theorem separators (a b : List Char) :
    (∀ s t, readStatement a = .ok s → readStatement b = .ok t →
      ReadAlike [';'] a ∨ SeparatorRead a b → ∃ e, check (a ++ ';' :: b) = .error e) ∧
    (∀ kind, check a = .ok kind → SameOutside a b →
      ReadAlike [] a → ReadAlike [] b → check b ≠ .error .multipleStatements) := by
  refine ⟨fun s t ha hb known => ?_, fun kind => single_of_sameOutside⟩
  cases hc : check (a ++ ';' :: b) with
  | error e => exact ⟨e, rfl⟩
  | ok kind =>
    exfalso
    obtain ⟨as, hl, together⟩ | separator := known
    · exact separator_seen (not_allBlank_of_readStatement ha) (not_allBlank_of_readStatement hb)
        hl together hc
    · obtain ⟨s', hread, -⟩ := bind_eq_ok.1 (check_eq_ok_iff.1 hc).1
      rw [several_of_separator ha hb separator] at hread
      cases hread

theorem separators_literal :
    (∃ s t, readStatement "SELECT 'a'".toList = .ok s ∧ readStatement "SELECT 1".toList = .ok t) ∧
      (∃ e, check ("SELECT 'a'".toList ++ ';' :: "SELECT 1".toList) = .error e) ∧
      check "SELECT 'a'".toList = .ok .select ∧
      SameOutside "SELECT 'a'".toList "SELECT ';'".toList ∧
      check "SELECT ';'".toList ≠ .error .multipleStatements := by
  let word : Lexeme := ⟨.ofName "SELECT".toList, "SELECT".toList⟩
  let blank : Lexeme := ⟨.blank, [' ']⟩
  let letter : Lexeme := ⟨.text .single ['a'], "'a'".toList⟩
  let semicolon : Lexeme := ⟨.text .single [';'], "';'".toList⟩
  have hl : lexemes (trim "SELECT 'a'".toList) = .ok [word, blank, letter] := by decide +kernel
  have hl' : lexemes (trim "SELECT ';'".toList) = .ok [word, blank, semicolon] := by decide +kernel
  have alike (more : List Char) : ReadAlike more "SELECT 'a'".toList :=
    readAlike_of_plain hl (by simp [word, blank, letter, Token.ofName])
  have alike' : ReadAlike [] "SELECT ';'".toList :=
    readAlike_of_plain hl' (by simp [word, blank, semicolon, Token.ofName])
  have outside : SameOutside "SELECT 'a'".toList "SELECT ';'".toList :=
    ⟨_, _, hl, hl', .same _ (.same _ (.quoted ⟨rfl, by decide⟩ ⟨rfl, by decide⟩ .nil))⟩
  have ha : check "SELECT 'a'".toList = .ok .select :=
    check_of_passes (by decide +kernel) (by decide +kernel)
  have hb : checkParsed "SELECT 1".toList = .ok .select := by decide +kernel
  obtain ⟨s, hs, -⟩ := bind_eq_ok.1 (check_eq_ok_iff.1 ha).1
  obtain ⟨t, ht, -⟩ := bind_eq_ok.1 hb
  exact ⟨⟨s, t, hs, ht⟩, (separators _ _).1 s t hs ht (.inl (alike _)), ha, outside,
    (separators _ _).2 .select ha outside (alike []) alike'⟩

/-- Behind bits with a backslash a comment hides the separator from the grammar,
and the bits hide both from the lexical layer. -/
theorem separator_behind_bits_accepted :
    (∃ s t, readStatement "SELECT b'\\' -- x".toList = .ok s ∧
      readStatement "SELECT 1".toList = .ok t) ∧
      check ("SELECT b'\\' -- x".toList ++ ';' :: "SELECT 1".toList) = .ok .select := by
  have ha : checkParsed "SELECT b'\\' -- x".toList = .ok .select := by decide +kernel
  have hb : checkParsed "SELECT 1".toList = .ok .select := by decide +kernel
  obtain ⟨s, hs, -⟩ := bind_eq_ok.1 ha
  obtain ⟨t, ht, -⟩ := bind_eq_ok.1 hb
  exact ⟨⟨s, t, hs, ht⟩, check_of_passes (by decide +kernel) (by decide +kernel)⟩

/-- Bits may also take a later mark for their own, and a semicolon behind it for
live SQL. -/
example : check "SELECT b'\\', 'x'".toList = .ok .select ∧
    check "SELECT b'\\', ';'".toList = .error .multipleStatements := by
  decide +kernel

end QueryGate.Gate
