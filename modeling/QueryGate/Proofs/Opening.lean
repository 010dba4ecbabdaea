import QueryGate.Proofs.Coverage
import QueryGate.Proofs.Layers
import QueryGate.Proofs.ReadOnly
import QueryGate.Proofs.Refused
import QueryGate.Proofs.Unit.Name
/-!
# How an accepted text opens

The kind of a statement is decided on its units, and the lexical layer looks at
the capitals the text begins with. Both see the same first word, so the kind of
an accepted text can be told from how it opens.
-/

namespace QueryGate.Sql

/-! ## What readers come to -/

/-- All that a reader comes to has a property. -/
def Reader.Yields {α : Type} (P : α → Prop) (p : Reader α) : Prop :=
  ∀ ts a r, p ts = .ok (a, r) → P a

namespace Reader.Yields

variable {α β : Type} {P : α → Prop}

theorem pure {a : α} (h : P a) : Yields P (Pure.pure a) := by
  intro ts b r hb
  cases hb
  exact h

theorem bind {p : Reader β} {f : β → Reader α} (h : ∀ b, Yields P (f b)) :
    Yields P (p >>= f) := by
  intro ts a r ha
  obtain ⟨b, u, -, hf⟩ := bind_ok.1 ha
  exact h b u a r hf

theorem fail : Yields P (Reader.fail : Reader α) := by
  intro ts a r h
  cases h

end Reader.Yields

namespace Read

open Reader

variable (g : Grammar)

/-- `EXPLAIN` and its like come to a statement or a table explained. -/
def Explains : Statement → Prop
  | .explain .. | .describe _ => True
  | _ => False

theorem explain_yields : Yields Explains (explain g) := by
  unfold explain
  dsimp only
  repeat' first
    | exact .pure trivial
    | exact .fail
    | refine .bind fun _ => ?_
    | split

/-! ## The first unit of a statement -/

/-- What a statement that may run opens with. -/
def Opens (t : Token) : Statement → Prop
  | .query _ => t.isKey "SELECT" ∨ t.isKey "WITH" ∨ t.isKey "VALUES" ∨ t = .symbol "("
  | .show _ => t.isKey "SHOW"
  | .describe _ | .explain .. => t.isKey "DESC" ∨ t.isKey "DESCRIBE" ∨ t.isKey "EXPLAIN"
  | .use _ => t.isKey "USE"
  | .other .. => False

theorem opens_of_explains {t : Token} {s : Statement}
    (ht : t.isKey "DESC" ∨ t.isKey "DESCRIBE" ∨ t.isKey "EXPLAIN") (hs : Explains s) :
    Opens t s := by
  cases s with
  | explain | describe => exact ht
  | _ => cases hs

theorem refused_yields {P : Statement → Prop} {p : Reader Statement} [Refused p] :
    Yields (fun s => s.Readable → P s) p := by
  intro ts s r h hs
  exact absurd hs (Refused.refused ts s r h)

theorem statementAfter_yields (text : List Char) (key : String) :
    Yields (fun s => s.Readable → Opens (.word text (some key)) s) (statementAfter g key) := by
  have explained {key : String}
      (hkey : Token.isKey (.word text (some key)) "DESC" ∨
        Token.isKey (.word text (some key)) "DESCRIBE" ∨
        Token.isKey (.word text (some key)) "EXPLAIN") :
      Yields (fun s => s.Readable → Opens (.word text (some key)) s) (explain g) := by
    intro ts s r h _
    exact opens_of_explains hkey (explain_yields g ts s r h)
  unfold statementAfter
  split
  · exact explained (.inl rfl)
  · exact explained (.inr (.inl rfl))
  · exact explained (.inr (.inr rfl))
  · exact .bind fun _ => .pure fun _ => rfl
  · exact .bind fun _ => .pure fun _ => rfl
  -- All other words come to statements that may not run.
  all_goals try exact refused_yields
  split <;> exact refused_yields

theorem opens_of_read {t : Token} {ts r : List Token} {s : Statement}
    (h : statement g (t :: ts) = .ok (s, r)) (hs : s.Readable) : Opens t s := by
  unfold statement at h
  dsimp only at h
  by_cases lock : areKeys ["LOCK", "TABLES"] (t :: ts)
  · rw [if_pos lock] at h
    exact absurd hs (Refused.refused _ _ _ h)
  rw [if_neg lock] at h
  by_cases unlock : areKeys ["UNLOCK", "TABLES"] (t :: ts)
  · rw [if_pos unlock] at h
    cases h
    exact hs.elim
  rw [if_neg unlock] at h
  split at h
  · next first =>
    obtain ⟨q, u, -, hp⟩ := bind_ok.1 h
    cases hp
    simpa [Opens, or_assoc] using first
  · cases t with
    | word text key =>
      cases key with
      | some key => exact statementAfter_yields g text key _ _ _ h hs
      | none => cases h
    | _ => cases h

/-! ## A query that opens with SELECT -/

/-- A body that begins with a `SELECT` of its own. -/
def BeginsSelect : Body → Prop
  | .select _ | .operation .. => True
  | _ => False

theorem operations_yields {ops : List (String × SetOperator)} {right : SetOperator → Reader Body}
    {n : Nat} {left : Body} (h : BeginsSelect left) :
    Yields BeginsSelect (operations ops right n left) := by
  induction n generalizing left with
  | zero => exact .pure h
  | succ n ih =>
    unfold operations
    refine .bind fun op => ?_
    split
    · exact .bind fun _ => .bind fun _ => ih trivial
    · exact .pure h

theorem beginsSelect_of_body {t : Token} {ts r : List Token} {b : Body}
    (ht : t.isKey "SELECT") (h : body g (t :: ts) = .ok (b, r)) : BeginsSelect b := by
  obtain ⟨left, u, hl, h⟩ := bind_ok.1 h
  obtain ⟨_, _, -, h⟩ := bind_ok.1 h
  refine operations_yields ?_ _ _ _ h
  obtain ⟨found, v, hf, hl⟩ := bind_ok.1 hl
  simp only [accept, areKeys, ht, Bool.and_self, if_true] at hf
  cases hf
  obtain ⟨s, w, -, hp⟩ := bind_ok.1 hl
  cases hp
  trivial

theorem beginsSelect_of_query {t : Token} {ts r : List Token} {q : Query}
    (ht : t.isKey "SELECT") (h : query g (t :: ts) = .ok (q, r)) : BeginsSelect q.body := by
  obtain ⟨b, u, hb, h⟩ := body_of_query g ht h
  have kept : q.body = b := by
    refine (?_ : Yields (fun q : Query => q.body = b) (behindBody g b)) _ _ _ h
    unfold behindBody behindOrder
    dsimp only
    repeat' first
      | exact .pure rfl
      | refine .bind fun _ => ?_
      | split
  rw [kept]
  exact beginsSelect_of_body g ht hb

theorem beginsSelect_of_read {t : Token} {ts r : List Token} {q : Query}
    (ht : t.isKey "SELECT") (h : statement (Grammar.above g) (t :: ts) = .ok (.query q, r)) :
    BeginsSelect q.body := by
  obtain ⟨_, same, hq⟩ := query_of_statement _ ht h
  cases same
  exact beginsSelect_of_query g ht hq

end Read

end QueryGate.Sql

namespace QueryGate.Gate

open QueryGate.Sql
open Text (upper upperChar beginsWith)

/-! ## The first word of a text -/

/-- The words of reading statements are made of name characters. -/
theorem isNamePart_of_mem_readOnlyWords {w : String} (hw : w ∈ Lexical.readOnlyWords) :
    ∀ c ∈ w.toList, isNamePart c := by
  have all : Lexical.readOnlyWords.all fun w => w.toList.all isNamePart := by decide
  exact List.all_eq_true.1 (List.all_eq_true.1 all w hw)

/-- The name a text begins with, if it begins with one. -/
def frontName : List Char → List Char
  | [] => []
  | c :: rest => c :: rest.takeWhile isNamePart

theorem beginsWith_frontName {w : String} (hw : w ∈ Lexical.readOnlyWords) (s : List Char) :
    beginsWith w.toList (upper s) ↔ beginsWith w.toList (upper (frontName s)) := by
  cases s with
  | nil => rfl
  | cons c rest =>
    have cut : c :: rest = frontName (c :: rest) ++ rest.dropWhile isNamePart := by
      simp [frontName, List.takeWhile_append_dropWhile]
    rw [cut, Text.upper_append, Text.beginsWith_iff, Text.prefix_append_iff, Text.beginsWith_iff,
      ← cut]
    -- Behind the name stands no letter, in capitals neither.
    intro d hd hmem
    cases hrest : rest.dropWhile isNamePart with
    | nil => simp [hrest, upper] at hd
    | cons e more =>
      have stop : isNamePart e = false := by
        have := List.head_dropWhile_not (p := isNamePart) (l := rest) (by simp [hrest])
        simpa [hrest] using this
      have same : d = e := by
        simpa [hrest, upper, upperChar_of_not_isNamePart stop, eq_comm] using hd
      rw [← same, isNamePart_of_mem_readOnlyWords hw d hmem] at stop
      cases stop

theorem isNameStart_of_toUpper {c : Char} (h : c.toUpper ∈ ['S', 'D', 'E'])
    (ascii : c.toNat < 128) : isNameStart c ∧ c ≠ '@' ∧ c ∉ introducers := by
  obtain ⟨n, rfl⟩ := Text.exists_ofNat ascii
  revert n
  decide

/-- A text that opens with one of the words begins like a name. -/
theorem name_of_begins {w : String} {s : List Char} (hw : w ∈ Lexical.readOnlyWords)
    (h : beginsWith w.toList (upper s)) :
    ∃ c rest, s = c :: rest ∧ isNameStart c ∧ c ≠ '@' ∧ c ∉ introducers := by
  have first : ∀ w ∈ Lexical.readOnlyWords, w.toList.head? ∈ ['S', 'D', 'E'].map some := by
    decide
  obtain ⟨d, hd, same⟩ := List.mem_map.1 (first w hw)
  obtain ⟨ds, hw⟩ := List.head?_eq_some_iff.1 same.symm
  rw [Text.beginsWith_iff, hw] at h
  cases s with
  | nil => simp [upper] at h
  | cons c rest =>
    refine ⟨c, rest, rfl, ?_⟩
    by_cases ascii : c.toNat < 128
    · refine isNameStart_of_toUpper ?_ ascii
      have capital : upperChar c = [c.toUpper] := if_pos ascii
      have whole : upper (c :: rest) = c.toUpper :: upper rest := by
        rw [upper, List.flatMap_cons, capital]
        rfl
      rw [whole, List.cons_prefix_cons] at h
      exact h.1 ▸ hd
    · refine ⟨isNameStart_iff.2 (by omega), ?_, ?_⟩
      · rintro rfl
        exact ascii (by decide)
      · intro hc
        have all : introducers.all (·.toNat < 128) := by decide
        exact ascii (by simpa using List.all_eq_true.1 all c hc)

/-- Whether the capitals of the trimmed text begin with a word. -/
def OpensWith (text : List Char) (w : String) : Prop :=
  beginsWith w.toList (upper (Text.trim text))

theorem readAll_head {one : Reader Statement} {n : Nat} {t : Token} {ts : List Token}
    {s : Statement} {ss : List Statement} (ht : t ≠ .symbol ";")
    (h : Statement.readAll one false n (t :: ts) = .ok (s :: ss)) :
    ∃ r, one (t :: ts) = .ok (s, r) := by
  cases n with
  | zero => cases h
  | succ n =>
    rw [Statement.readAll, if_neg ht, if_neg (by decide)] at h
    split at h
    · cases h
    · next s' r hr =>
      obtain ⟨others, -, h⟩ := map_eq_ok.1 h
      cases h
      exact ⟨r, hr⟩

/-- The units of an accepted text begin with a word from which its statement is
read, and by whose capitals the lexical layer knows how the text opens. -/
theorem units_of_check {text : List Char} {kind : Kind} (h : check text = .ok kind) :
    ∃ ls word key more s r, lexemes (Text.trim text) = .ok ls ∧
      tokens ls = .word word (some key) :: more ∧
      readOne (.word word (some key) :: more) = .ok (s, r) ∧ checkStatement s = .ok kind ∧
      (∃ w ∈ Lexical.readOnlyWords, w.toList <+: key.toList) ∧
      ∀ w ∈ Lexical.readOnlyWords, OpensWith text w ↔ w.toList <+: key.toList := by
  obtain ⟨hp, hl⟩ := check_eq_ok_iff.1 h
  obtain ⟨s, hread, hs⟩ := bind_eq_ok.1 hp
  obtain ⟨ls, hlex, hone⟩ := readStatement_ok hread
  obtain ⟨-, -, -, hbegins⟩ := Lexical.check_eq_ok_iff.1 hl
  obtain ⟨w, hw, hfront⟩ := List.any_eq_true.1 hbegins
  obtain ⟨c, rest, htext, hc, hat, hi⟩ := name_of_begins hw hfront
  have opens : ∀ w ∈ Lexical.readOnlyWords,
      OpensWith text w ↔ w.toList <+: upper (frontName (Text.trim text)) := by
    intro w hw
    rw [OpensWith, beginsWith_frontName hw, Text.beginsWith_iff]
  obtain ⟨more, hmore⟩ := tokens_of_name hc hat hi (htext ▸ hlex)
  rw [hmore] at hone
  obtain ⟨r, hr⟩ := readAll_head (by simp [Token.ofName]) hone
  refine ⟨ls, _, _, more, s, r, hlex, hmore, hr, hs, ⟨w, hw, ?_⟩, ?_⟩
  · simpa [htext, frontName] using (opens w hw).1 hfront
  · simpa [htext, frontName] using opens

theorem firstWord_of_check {text : List Char} {kind : Kind} (h : check text = .ok kind) :
    ∃ word key more s r, readOne (.word word (some key) :: more) = .ok (s, r) ∧
      checkStatement s = .ok kind ∧
      (∃ w ∈ Lexical.readOnlyWords, w.toList <+: key.toList) ∧
      ∀ w ∈ Lexical.readOnlyWords, OpensWith text w ↔ w.toList <+: key.toList := by
  obtain ⟨-, word, key, more, s, r, -, -, known⟩ := units_of_check h
  exact ⟨word, key, more, s, r, known⟩

/-! ## Kinds -/

/-- The kind of a text is the one its first word stands for. -/
structure FitsOpening (text : List Char) (kind : Kind) : Prop where
  select : kind = .select ∨ kind = .union ↔ OpensWith text "SELECT"
  shows : kind = .show ↔ OpensWith text "SHOW"
  describes : kind = .describe ↔
    OpensWith text "DESC" ∨ OpensWith text "DESCRIBE" ∨ OpensWith text "EXPLAIN"

/-- The kind of a statement that opens with one of the words of reading
statements. -/
theorem kind_of_key {word : List Char} {key : String} {more r : List Token} {s : Statement}
    {kind : Kind} (hread : readOne (.word word (some key) :: more) = .ok (s, r))
    (hs : checkStatement s = .ok kind)
    (hkey : ∃ w ∈ Lexical.readOnlyWords, w.toList <+: key.toList) :
    (key = "SELECT" ∧ (kind = .select ∨ kind = .union)) ∨ (key = "SHOW" ∧ kind = .show) ∨
      (key ∈ ["DESC", "DESCRIBE", "EXPLAIN"] ∧ kind = .describe) := by
  have opens : Read.Opens (.word word (some key)) s :=
    Read.opens_of_read _ hread (readable_of_checkStatement hs)
  have named {k : String} (hk : Token.isKey (.word word (some key)) k) : key = k := by
    simpa [Token.isKey] using hk
  have reads {k : String} (hk : key = k)
      (hno : ∀ w ∈ Lexical.readOnlyWords, ¬ w.toList <+: k.toList) : False := by
    obtain ⟨w, hw, hp⟩ := hkey
    exact hno w hw (hk ▸ hp)
  cases s with
  | query q =>
    rcases opens with select | withs | values | paren
    · refine .inl ⟨named select, ?_⟩
      have form := (checkQuery_eq_ok_iff.1 hs).2
      have begins := Read.beginsSelect_of_read _ select hread
      generalize q.body = b at form begins
      cases form with
      | select => exact .inl rfl
      | operation => exact .inr rfl
      | nested => cases begins
    · exact (reads (named withs) (by decide)).elim
    · exact (reads (named values) (by decide)).elim
    · cases paren
  | «show» shown =>
    cases hs
    exact .inr (.inl ⟨named opens, rfl⟩)
  | describe name =>
    cases hs
    refine .inr (.inr ⟨?_, rfl⟩)
    rcases opens with desc | describe | explain
    · simp [named desc]
    · simp [named describe]
    · simp [named explain]
  | explain analyze inner =>
    cases analyze with
    | true => cases hs
    | false =>
      obtain ⟨k, -, hk⟩ := bind_eq_ok.1 hs
      cases hk
      refine .inr (.inr ⟨?_, rfl⟩)
      rcases opens with desc | describe | explain
      · simp [named desc]
      · simp [named describe]
      · simp [named explain]
  | use name => exact (reads (named opens) (by decide)).elim
  | other category keyword => exact opens.elim

theorem fitsOpening_of_check {text : List Char} {kind : Kind} (h : check text = .ok kind) :
    FitsOpening text kind := by
  obtain ⟨word, key, more, s, r, hread, hs, hkey, opens⟩ := firstWord_of_check h
  obtain ⟨select, shows, describes⟩ :
      (kind = .select ∨ kind = .union ↔ "SELECT".toList <+: key.toList) ∧
        (kind = .show ↔ "SHOW".toList <+: key.toList) ∧
        (kind = .describe ↔ "DESC".toList <+: key.toList ∨ "DESCRIBE".toList <+: key.toList ∨
          "EXPLAIN".toList <+: key.toList) := by
    rcases kind_of_key hread hs hkey with ⟨rfl, rfl | rfl⟩ | ⟨rfl, rfl⟩ | ⟨hk, rfl⟩
    · decide
    · decide
    · decide
    · simp only [List.mem_cons, List.not_mem_nil, or_false] at hk
      rcases hk with rfl | rfl | rfl <;> decide
  refine ⟨?_, ?_, ?_⟩
  · rw [select, opens "SELECT" (by decide)]
  · rw [shows, opens "SHOW" (by decide)]
  · rw [describes, opens "DESC" (by decide), opens "DESCRIBE" (by decide),
      opens "EXPLAIN" (by decide)]

/-- A text passes exactly if both layers let it pass, with the kind the grammar
gives it. That kind is the one the first word stands for; so no text passes that
switches the schema, and none that begins with a parenthesis. -/
theorem verdict_of_layers (text : List Char) :
    (∀ kind, check text = .ok kind ↔
      checkParsed text = .ok kind ∧ Lexical.check text = .ok ()) ∧
    (∀ kind, check text = .ok kind → FitsOpening text kind) ∧
    check text ≠ .ok .use ∧ check text ≠ .ok .parenthesized := by
  refine ⟨fun kind => check_eq_ok_iff, fun kind => fitsOpening_of_check, ?_, ?_⟩
  · intro h
    obtain ⟨word, key, more, s, r, hread, hs, hkey, -⟩ := firstWord_of_check h
    simpa using kind_of_key hread hs hkey
  · intro h
    obtain ⟨word, key, more, s, r, hread, hs, hkey, -⟩ := firstWord_of_check h
    simpa using kind_of_key hread hs hkey

theorem verdict_of_layers_union :
    check "select 1 union select 2".toList = .ok .union ∧
      FitsOpening "select 1 union select 2".toList .union :=
  have h : check "select 1 union select 2".toList = .ok .union :=
    check_of_passes (by decide +kernel) (by decide +kernel)
  ⟨h, (verdict_of_layers _).2.1 _ h⟩

end QueryGate.Gate
