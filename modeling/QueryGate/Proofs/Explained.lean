import QueryGate.Proofs.Concurrent.Switching
import QueryGate.Proofs.Opening
import QueryGate.Proofs.Text.Match
/-!
# A query that is explained

What `explain_query` sends is not the text that was checked, and nothing checks it
again. The word in front of it changes nothing for the lexical layer, nor for the
verdict on the statement, and the statement explained is never analyzed. For the
grammar it is one more level: a text that is nested as deep as any may be passes
alone and does not behind `EXPLAIN`.
-/

namespace QueryGate.Gate.Lexical

open Text (trim upper)

/-! ## The lexical layer -/

/-- Whether the rule begins to match nowhere within a text in front, whatever
stands behind that. -/
def Rule.quietWithin (r : Rule) (front : List Char) : Bool :=
  r.patterns.all fun p =>
    match r.reach with
    | .start => p.stuck none front
    | .anywhere => p.barred none front

theorem quiet_lead : ∀ r ∈ rules, r.quietWithin "EXPLAIN ".toList := by decide +kernel

theorem fires_behind {r : Rule} {front : List Char} (quiet : r.quietWithin front)
    (last : front.getLast?.any Text.isWordChar = false) {sql stripped : List Char}
    (fires : r.fires (front ++ sql) (front ++ stripped)) : r.fires sql stripped := by
  obtain ⟨p, hp, found⟩ := List.any_eq_true.1 fires
  have still := List.all_eq_true.1 quiet p hp
  refine List.any_eq_true.2 ⟨p, hp, ?_⟩
  cases reach : r.reach with
  | start =>
    simp only [reach] at still found
    rw [Text.Pattern.matchesStart, Text.Pattern.ends_of_stuck still] at found
    cases found
  | anywhere =>
    simp only [reach] at still found
    rwa [Text.Pattern.occurs_barred still last] at found

theorem beginsReadOnly_explained (sql : List Char) : beginsReadOnly (Tool.explained sql) := by
  have capitals : upper "EXPLAIN ".toList = "EXPLAIN ".toList := by decide
  have front : "EXPLAIN".toList <+: "EXPLAIN ".toList := by decide
  refine List.any_eq_true.2 ⟨"EXPLAIN", by decide, Text.beginsWith_iff.2 ?_⟩
  have behind := front.trans (List.prefix_append _ (upper (trim sql)))
  rwa [← capitals, ← Text.upper_append] at behind

/-- The lexical layer lets an accepted text pass behind `EXPLAIN`. -/
theorem check_explained {sql : List Char} (h : Lexical.check sql = .ok ()) :
    Lexical.check (Tool.explained sql) = .ok () := by
  obtain ⟨some, single, quiet, -⟩ := check_eq_ok_iff.1 h
  refine check_eq_ok_iff.2 ?_
  rw [trim_explained some]
  refine ⟨List.append_ne_nil_of_left_ne_nil (by decide) _, isSingle_explained single,
    fun r hr fires => ?_, beginsReadOnly_explained sql⟩
  rw [stripLiterals_explained] at fires
  exact quiet r hr (fires_behind (quiet_lead r hr) (by decide) fires)

end QueryGate.Gate.Lexical

namespace QueryGate.Sql

open Text (trim)

/-! ## The units of the text -/

/-- A word and a blank in front of a text are two units more. -/
theorem lexemes_behind_word {c : Char} {w s : List Char} {ls : List Lexeme}
    (hc : isNameStart c) (hat : c ≠ '@') (hi : c ∉ introducers) (hw : w.all isNamePart)
    (h : lexemes s = .ok ls) :
    lexemes (c :: w ++ ' ' :: s) =
      .ok (⟨.ofName (c :: w), c :: w⟩ :: ⟨.blank, [' ']⟩ :: ls) := by
  have stop : (w ++ ' ' :: s).takeWhile isNamePart = w := by
    rw [List.takeWhile_append_of_pos (List.all_eq_true.1 hw),
      List.takeWhile_cons_of_neg (by decide), List.append_nil]
  have first := scan_name hc hat hi none (w ++ ' ' :: s)
  rw [name_one, stop] at first
  have back : lexemesAfter (some .blank) s = .ok ls := by
    rw [lexemesAfter_idle (.inr (.inl rfl)), h]
  rw [List.cons_append]
  refine lexemesAfter_cons.2 ⟨_, first, ?_, ?_⟩
  · rw [Nat.add_sub_cancel_left, List.take_left]
  · rw [Nat.add_sub_cancel_left, List.drop_left]
    exact lexemesAfter_cons.2 ⟨1, rfl, rfl, back⟩

theorem lexemes_explained {sql : List Char} {ls : List Lexeme} (h : lexemes (trim sql) = .ok ls) :
    lexemes (Tool.explained sql) =
      .ok (⟨.ofName "EXPLAIN".toList, "EXPLAIN".toList⟩ :: ⟨.blank, [' ']⟩ :: ls) := by
  have lead : "EXPLAIN ".toList = 'E' :: "XPLAIN".toList ++ [' '] := by decide
  have word : "EXPLAIN".toList = 'E' :: "XPLAIN".toList := by decide
  have units := lexemes_behind_word (c := 'E') (w := "XPLAIN".toList) (by decide) (by decide)
    (by decide) (by decide) h
  have whole : Tool.explained sql = 'E' :: "XPLAIN".toList ++ ' ' :: trim sql := by
    unfold Tool.explained
    simp only [lead, List.append_assoc, List.singleton_append]
  rw [whole, word, units]

/-! ## The statement explained -/

theorem Reader.bind_of_ok {α β : Type} {p : Reader α} {f : α → Reader β} {ts u : List Token} {a : α}
    (h : p ts = .ok (a, u)) : (p >>= f) ts = f a u := by
  change p ts >>= (fun out => f out.1 out.2) = f a u
  rw [h]
  rfl

namespace Read

open Reader

variable (g : Grammar)

/-- What is read behind the options of an `EXPLAIN`. -/
def behindOptions (analyze : Bool) : Reader Statement := do
  match ← attempt g.statement with
  | some (.explain ..) | some (.describe _) => fail
  | some s => return .explain analyze s
  | none =>
    let _ ← acceptOne ["EXTENDED", "FORMATTED"]
    return .describe (← name)

/-- A `SELECT` is none of the options. -/
theorem explain_select {t : Token} (ht : t.isKey "SELECT") (ts : List Token) :
    explain g (t :: ts) = behindOptions g false (t :: ts) := by
  have passed {k : String} {ks : List String} (hne : "SELECT" ≠ k) :
      accept (k :: ks) (t :: ts) = .ok (false, t :: ts) := by
    simp [accept, areKeys, isKey_other ht hne]
  -- One option after the other is looked for and not found.
  refine (bind_of_ok (passed (by decide))).trans ?_
  refine (bind_of_ok (passed (by decide))).trans ?_
  refine (bind_of_ok (passed (by decide))).trans ?_
  refine (bind_of_ok (passed (by decide))).trans ?_
  exact bind_of_ok (passed (by decide))

theorem explain_of_query {t : Token} {ts r : List Token} {q : Query} (ht : t.isKey "SELECT")
    (h : g.statement (t :: ts) = .ok (.query q, r)) :
    explain g (t :: ts) = .ok (.explain false (.query q), r) := by
  rw [explain_select g ht]
  refine bind_ok.2 ⟨some (.query q), r, ?_, rfl⟩
  rw [attempt, h]

/-- A query that is explained, or a table by the name of the keyword. -/
theorem explain_select_ok {t : Token} {ts r : List Token} {s : Statement} (ht : t.isKey "SELECT")
    (h : explain (Grammar.above g) (t :: ts) = .ok (s, r)) :
    (∃ q, s = .explain false (.query q)) ∨ ∃ n, s = .describe n := by
  rw [explain_select _ ht] at h
  obtain ⟨found, u, hf, h⟩ := bind_ok.1 h
  unfold attempt at hf
  split at hf
  · next inner _ hs =>
    cases hf
    obtain ⟨q, rfl, -⟩ := query_of_statement g ht hs
    cases h
    exact .inl ⟨q, rfl⟩
  · cases hf
  · cases hf
    obtain ⟨_, _, -, h⟩ := bind_ok.1 h
    obtain ⟨n, _, -, h⟩ := bind_ok.1 h
    cases h
    exact .inr ⟨n, rfl⟩

theorem statementAfter_explain : statementAfter g "EXPLAIN" = explain g := rfl

/-- A statement behind `EXPLAIN` is read one level deeper. -/
theorem statement_explain {t : Token} (ht : t.isKey "EXPLAIN") (ts : List Token) :
    statement g (t :: ts) = explain g ts := by
  have other {k : String} (hne : "EXPLAIN" ≠ k) : t.isKey k = false := isKey_other ht hne
  cases t with
  | word text key =>
    cases key with
    | none => cases ht
    | some key =>
      obtain rfl : key = "EXPLAIN" := by simpa [Token.isKey] using ht
      simp [statement, areKeys, other, statementAfter_explain]
  | _ => cases ht

end Read

namespace Statement

/-- Whether an `EXPLAIN ANALYZE` is in the statement, at any level. -/
def Analyzes : Statement → Prop
  | .explain analyze s => analyze ∨ s.Analyzes
  | _ => False

/-! ## Statements in a row -/

/-- The statements a list of units is made of, where nesting may be so deep. -/
def ofTokensWithin (depth : Nat) (ts : List Token) : Except Fault (List Statement) :=
  readAll (Grammar.levels depth).statement false (2 * ts.length + 1) ts

theorem ofTokensWithin_depthLimit (ts : List Token) :
    ofTokensWithin Grammar.depthLimit ts = ofTokens ts := rfl

/-- What may be left behind the only statement is nothing to any reader. -/
theorem readAll_remainder {ts : List Token} (h : IsRemainder ts) (one : Reader Statement)
    (n : Nat) : readAll one true n ts = .ok [] := by
  obtain semicolons | ⟨e, tail, rfl, he⟩ := h
  · generalize true = after
    induction ts generalizing after n with
    | nil => cases n <;> rfl
    | cons t ts ih =>
      obtain ⟨ht, hts⟩ := List.forall_mem_cons.1 semicolons
      cases n with
      | zero => rfl
      | succ n => rw [readAll, if_pos ht, ih n hts]
  · have word : e ≠ .symbol ";" := by
      rintro rfl
      cases he
    cases n with
    | zero => rfl
    | succ n => rw [readAll, if_neg word, if_pos rfl, if_pos he]

/-- A single statement whose first unit is no semicolon is read first. -/
theorem readAll_single_iff {one : Reader Statement} (hone : one.Front) {n : Nat} {t : Token}
    {ts : List Token} {s : Statement} (other : t ≠ .symbol ";") (hn : ts.length < n) :
    readAll one false (n + 1) (t :: ts) = .ok [s] ↔
      ∃ r, one (t :: ts) = .ok (s, r) ∧ IsRemainder r := by
  constructor
  · intro h
    obtain ⟨before, taken, after, parts, leading, hread, left⟩ :=
      readAll_single hone (Nat.succ_lt_succ hn) h
    cases before with
    | nil =>
      rw [List.nil_append] at parts
      exact ⟨after, parts ▸ hread, left⟩
    | cons b before =>
      obtain ⟨rfl, -⟩ := List.cons.inj parts
      exact absurd (leading t List.mem_cons_self) other
  · rintro ⟨r, hread, left⟩
    rw [readAll, if_neg other, if_neg (by decide), hread]
    dsimp only
    rw [readAll_remainder left]
    rfl

end Statement

end QueryGate.Sql

namespace QueryGate.Gate

open Sql
open Text (trim)

/-! ## The verdict -/

/-- Whether a text is one statement that may run, where nesting may be so deep. -/
def AcceptedWithin (depth : Nat) (text : List Char) : Prop :=
  ∃ ls s kind, lexemes (trim text) = .ok ls ∧
    Statement.ofTokensWithin depth (tokens ls) = .ok [s] ∧ checkStatement s = .ok kind

/-- An accepted text is nested as deep as any may be at most. -/
theorem acceptedWithin_of_check {text : List Char} {kind : Kind} (h : check text = .ok kind) :
    AcceptedWithin Grammar.depthLimit text := by
  obtain ⟨s, hread, hs⟩ := bind_eq_ok.1 (check_eq_ok_iff.1 h).1
  obtain ⟨ls, hl, ho⟩ := readStatement_ok hread
  rw [← Statement.ofTokensWithin_depthLimit] at ho
  exact ⟨ls, s, kind, hl, ho, hs⟩

theorem acceptedWithin_of_verdict {depth : Nat} {text : List Char} {k : Kind}
    (h : ((lexemes (trim text)).bind fun ls =>
      (Statement.ofTokensWithin depth (tokens ls)).map (List.map checkStatement)) =
        .ok [.ok k]) : AcceptedWithin depth text := by
  obtain ⟨ls, hl, h⟩ := bind_eq_ok.1 h
  obtain ⟨ss, ho, hs⟩ := map_eq_ok.1 h
  obtain ⟨s, rfl, hs⟩ := List.map_eq_singleton_iff.1 hs
  exact ⟨ls, s, k, hl, ho, List.head_eq_of_cons_eq hs⟩

theorem checkStatement_explain {s : Statement} {kind : Kind} :
    checkStatement (.explain false s) = .ok kind ↔
      kind = .describe ∧ ∃ k, checkStatement s = .ok k := by
  constructor
  · intro h
    obtain ⟨k, hs, hk⟩ := bind_eq_ok.1 h
    exact ⟨(pure_eq_ok.1 hk).symm, k, hs⟩
  · rintro ⟨rfl, k, hs⟩
    exact bind_eq_ok.2 ⟨k, hs, rfl⟩

/-- The units of a text that is a query begin with `SELECT`. -/
theorem select_of_check {text : List Char} {kind : Kind} (h : check text = .ok kind)
    (query : kind ∈ [Kind.select, .union, .parenthesized]) :
    ∃ ls t more, lexemes (trim text) = .ok ls ∧ countStatements false (ls.map Lexeme.token) = 1 ∧
      tokens ls = t :: more ∧ t.isKey "SELECT" := by
  obtain ⟨ls, word, key, more, s, r, hl, units, hread, hs, hkey, -⟩ := units_of_check h
  obtain ⟨s', hread', -⟩ := bind_eq_ok.1 (check_eq_ok_iff.1 h).1
  obtain ⟨_, same, one⟩ := count_of_readStatement hread'
  cases hl.symm.trans same
  refine ⟨ls, _, more, hl, one, units, ?_⟩
  obtain ⟨rfl, -⟩ | ⟨-, rfl⟩ | ⟨-, rfl⟩ := kind_of_key hread hs hkey
  · rfl
  · simp at query
  · simp at query

theorem solid_of_isKey {t : Token} {k : String} (h : t.isKey k) : Solid t ∧ t ≠ .symbol ";" := by
  cases t with
  | word text key => exact ⟨⟨nofun, nofun⟩, nofun⟩
  | _ => cases h

theorem isKey_explain : Token.isKey (.ofName "EXPLAIN".toList) "EXPLAIN" := by decide

/-- The text that is explained is read as the units of the query behind the word,
a level deeper. -/
theorem readStatement_explained {sql : List Char} {ls : List Lexeme} {t : Token}
    {more : List Token} {s : Statement} (filled : trim sql ≠ [])
    (hl : lexemes (trim sql) = .ok ls) (one : countStatements false (ls.map Lexeme.token) = 1)
    (units : tokens ls = t :: more) (ht : t.isKey "SELECT") :
    readStatement (Tool.explained sql) = .ok s ↔
      ∃ r, Read.explain (Grammar.levels (Grammar.depthLimit - 1)) (t :: more) = .ok (s, r) ∧
        Statement.IsRemainder r := by
  obtain ⟨solid, other⟩ := solid_of_isKey ht
  obtain ⟨solid', other'⟩ := solid_of_isKey isKey_explain
  have alike (filled : Bool) : countStatements filled (ls.map Lexeme.token) =
      countStatements true more := by
    rw [← countStatements_tokens, units, countStatements_solid solid other]
  have counted : countStatements false (.ofName "EXPLAIN".toList :: .blank :: ls.map Lexeme.token) =
      1 := by
    rw [countStatements_solid solid' other', countStatements, if_neg (by simp), if_pos (.inl rfl),
      alike, ← alike false, one]
  have kept : tokens (⟨.ofName "EXPLAIN".toList, "EXPLAIN".toList⟩ :: ⟨.blank, [' ']⟩ :: ls) =
      .ofName "EXPLAIN".toList :: t :: more := by
    rw [← units]
    rfl
  have alone : Statement.ofTokens (.ofName "EXPLAIN".toList :: t :: more) = .ok [s] ↔ _ :=
    Statement.readAll_single_iff (Grammar.levels_front _) other' (by simp; omega)
  have behind : readOne (.ofName "EXPLAIN".toList :: t :: more) =
      Read.explain (Grammar.levels (Grammar.depthLimit - 1)) (t :: more) :=
    Read.statement_explain _ isKey_explain _
  rw [readStatement_eq_ok_iff, trim_explained filled, lexemes_explained hl, ← behind]
  constructor
  · rintro ⟨_, ⟨⟩, -, ho⟩
    exact alone.1 (kept ▸ ho)
  · intro known
    exact ⟨_, rfl, counted, kept ▸ alone.2 known⟩

/-- A query that is nested less deep than it may be is accepted behind `EXPLAIN`. -/
theorem check_explained {sql : List Char} {kind : Kind} (h : check sql = .ok kind)
    (query : kind ∈ [Kind.select, .union, .parenthesized])
    (room : AcceptedWithin (Grammar.depthLimit - 1) sql) :
    check (Tool.explained sql) = .ok .describe := by
  obtain ⟨ls, t, more, hl, one, units, ht⟩ := select_of_check h query
  have lexical := (check_eq_ok_iff.1 h).2
  have filled := (Lexical.check_eq_ok_iff.1 lexical).1
  obtain ⟨_, s, k, same, ho, hs⟩ := room
  cases hl.symm.trans same
  rw [units] at ho
  obtain ⟨r, hread, left⟩ := (Statement.readAll_single_iff (Grammar.levels_front _)
    (solid_of_isKey ht).2 (by simp; omega)).1 ho
  obtain ⟨q, rfl, -⟩ := Read.query_of_statement _ ht hread
  have read : readStatement (Tool.explained sql) = .ok (.explain false (.query q)) :=
    (readStatement_explained filled hl one units ht).2
      ⟨r, Read.explain_of_query _ ht hread, left⟩
  have verdict : checkStatement (.explain false (.query q)) = .ok .describe :=
    checkStatement_explain.2 ⟨rfl, k, hs⟩
  exact check_eq_ok_iff.2 ⟨bind_eq_ok.2 ⟨_, read, verdict⟩, Lexical.check_explained lexical⟩

/-- The statement explained is never analyzed. -/
theorem not_analyzes_of_explained {sql : List Char} {kind : Kind} (h : check sql = .ok kind)
    (query : kind ∈ [Kind.select, .union, .parenthesized]) {s : Statement}
    (hs : readStatement (Tool.explained sql) = .ok s) : ¬ s.Analyzes := by
  obtain ⟨ls, t, more, hl, one, units, ht⟩ := select_of_check h query
  have filled := (Lexical.check_eq_ok_iff.1 (check_eq_ok_iff.1 h).2).1
  obtain ⟨r, explained, -⟩ := (readStatement_explained filled hl one units ht).1 hs
  obtain ⟨q, rfl⟩ | ⟨n, rfl⟩ := Read.explain_select_ok _ ht explained
  · simp [Statement.Analyzes]
  · exact id

end QueryGate.Gate

namespace QueryGate

open Program (Runs)
open Text (trim)

/-! ## What is sent -/

/-- A text that explains `sql` and stays inside the gate. -/
structure Gate.StaysInside (sql text : List Char) : Prop where
  explains : text = "EXPLAIN ".toList ++ trim sql
  whole : Gate.AcceptedWithin Sql.Grammar.depthLimit sql
  lexical : Gate.Lexical.check text = .ok ()
  accepted : Gate.AcceptedWithin (Sql.Grammar.depthLimit - 1) sql → Gate.check text = .ok .describe
  plain : ∀ s, Gate.readStatement text = .ok s → ¬ s.Analyzes

/-- What explains a query stays inside the gate: it is the text that was checked
behind `EXPLAIN`, the lexical layer has nothing against it, it is accepted unless
it is nested too deep, and it analyzes nothing. -/
theorem explained_inside :
    (∀ (x : Executor) (input : Tool.ExplainInput) (acts : List Act) (r : Except Error Tool.Output),
      Runs (Tool.explainQuery x input) acts r → sentBy acts ≠ [] →
        ∃ text, Delivered (Tool.nonBlank input.database) text (sentBy acts) ∧
          Gate.StaysInside input.sql text) ∧
    (∀ t, trim t = t → Gate.Lexical.check t = .ok () →
      Gate.Lexical.check ("EXPLAIN ".toList ++ t) = .ok ()) ∧
    ∀ s kind, Gate.checkStatement (.explain false s) = .ok kind ↔
      kind = .describe ∧ ∃ k, Gate.checkStatement s = .ok k := by
  refine ⟨fun x input acts r runs some => ?_, fun t trimmed ht => ?_,
    fun s kind => Gate.checkStatement_explain⟩
  · obtain ⟨-, ⟨none | sent, -⟩⟩ := Tool.sends_explainQuery x input acts r runs
    · exact absurd none some
    cases sent with
    | plan accepted query delivered =>
      have lexical := (Gate.check_eq_ok_iff.1 accepted).2
      exact ⟨_, delivered, rfl, Gate.acceptedWithin_of_check accepted,
        Gate.Lexical.check_explained lexical, Gate.check_explained accepted query,
        fun s => Gate.not_analyzes_of_explained accepted query⟩
  · have whole : Tool.explained t = "EXPLAIN ".toList ++ t :=
      congrArg ("EXPLAIN ".toList ++ ·) trimmed
    exact whole ▸ Gate.Lexical.check_explained ht

/-- A query to be explained on the shop's connection. -/
def shopPlan (sql : List Char) : Program (Except Error Tool.Output) :=
  Tool.explainQuery ⟨30, 100⟩ ⟨sql, none, .json⟩

def planSent (sql : List Char) : List Sent :=
  sentBy ((shopPlan sql).trace Scripted.World.environment.answer Environment.shopWorld)

/-- A query that passes is sent behind `EXPLAIN`, and nothing else is. -/
theorem planSent_of_check {sql : List Char} (h : Gate.check sql = .ok .select) :
    (planSent sql).map Sent.sql = ["EXPLAIN ".toList ++ trim sql] := by
  have some : (planSent sql).isEmpty = false := by
    simp only [planSent, shopPlan, Tool.explainQuery, Tool.gate, h]
    rfl
  have runs : Runs (shopPlan sql) _ _ :=
    Program.runs_run Scripted.World.environment.answer (shopPlan sql) Environment.shopWorld
  obtain ⟨-, ⟨none | may, -⟩⟩ := Tool.sends_explainQuery _ _ _ _ runs
  · rw [show planSent sql = [] from none] at some
    cases some
  · change Tool.Call.MaySend _ (planSent sql) at may
    generalize planSent sql = sent at may
    cases may with
    | plan _ _ delivered =>
      cases delivered with
      | alone => rfl

theorem explained_inside_shop :
    planSent "SELECT 1".toList ≠ [] ∧
      Gate.AcceptedWithin (Sql.Grammar.depthLimit - 1) "SELECT 1".toList ∧
      (∃ text, Delivered none text (planSent "SELECT 1".toList) ∧
        Gate.StaysInside "SELECT 1".toList text ∧ Gate.check text = .ok .describe) ∧
      Gate.Lexical.check ("EXPLAIN ".toList ++ "SELECT 1".toList) = .ok () := by
  have lexical : Gate.Lexical.check "SELECT 1".toList = .ok () :=
    Gate.Lexical.passes_iff.1 (by decide +kernel)
  have accepted : Gate.check "SELECT 1".toList = .ok .select :=
    Gate.check_eq_ok_iff.2 ⟨by decide +kernel, lexical⟩
  have some : planSent "SELECT 1".toList ≠ [] := by
    intro none
    have sent := planSent_of_check accepted
    rw [none] at sent
    cases sent
  have room : Gate.AcceptedWithin (Sql.Grammar.depthLimit - 1) "SELECT 1".toList :=
    Gate.acceptedWithin_of_verdict (k := .select) (by decide +kernel)
  obtain ⟨text, delivered, inside⟩ :=
    explained_inside.1 _ _ _ _ (Program.runs_run _ (shopPlan _) _) some
  exact ⟨some, room, ⟨text, delivered, inside, inside.accepted room⟩,
    explained_inside.2.1 _ (by decide) lexical⟩

/-- A query in parentheses, `n` deep. -/
def nested (n : Nat) : List Char :=
  "SELECT ".toList ++ List.replicate n '(' ++ '1' :: List.replicate n ')'

/-- A query that is nested as deep as any may be is sent behind `EXPLAIN`, and what
is sent is no text that passes. -/
theorem explained_too_deep :
    (planSent (nested 47)).map Sent.sql = ["EXPLAIN ".toList ++ trim (nested 47)] ∧
      Gate.check (nested 47) = .ok .select ∧
      Gate.check ("EXPLAIN ".toList ++ trim (nested 47)) =
        .error (.unparsable Sql.Fault.tooDeep.message) := by
  have lexical : Gate.Lexical.check (nested 47) = .ok () :=
    Gate.Lexical.passes_iff.1 (by decide +kernel)
  have accepted : Gate.check (nested 47) = .ok .select :=
    Gate.check_eq_ok_iff.2 ⟨by decide +kernel, lexical⟩
  have deep : Gate.checkParsed (Tool.explained (nested 47)) =
      .error (.unparsable Sql.Fault.tooDeep.message) := by
    decide +kernel
  exact ⟨planSent_of_check accepted, accepted,
    Gate.check_of_unparsable deep (Gate.Lexical.check_explained lexical)⟩

end QueryGate
