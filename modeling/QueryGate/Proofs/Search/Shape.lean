import QueryGate.Proofs.Ending.Text
import QueryGate.Proofs.Search.Parts
import QueryGate.Proofs.Text.Trim
/-!
# What a search keeps of its template

A filter that closes its literals leaves the rest of the statement as it was
written, and one that leaves no comment open and does not end the statement with
`END` leaves it ordered and limited. `shape_of_sent` says so of every text a
search sends.
-/

namespace QueryGate.Sql

open Number (digitsOf)

theorem Left.number_mem {n : List Char} {ts : List Token} (h : Left n 3 ts) : .number n ∈ ts := by
  obtain whole | ⟨j, hj, rfl⟩ := h
  · exact whole.subset (by simp [ending])
  · obtain rfl | rfl | rfl | rfl : j = 0 ∨ j = 1 ∨ j = 2 ∨ j = 3 := by omega
    all_goals simp [ending]

end QueryGate.Sql

namespace QueryGate.Vector

open QueryGate.Sql
open Number (digitsOf digitsOf_ne_nil isDigit_of_mem_digitsOf)

/-! ## The text -/

theorem effectiveLimit_bounds (requested : Option Nat) :
    1 ≤ effectiveLimit requested ∧ effectiveLimit requested ≤ 1000 := by
  unfold effectiveLimit
  split
  · decide
  · decide
  · next n some =>
    have : n ≠ 0 := some
    have : greatestLimit = 1000 := rfl
    omega

/-- A filter in its place; a blank one has none. -/
def clause (body : List Char) : List Char :=
  if body.isEmpty then [] else " WHERE ".toList ++ body

/-- The parts of a search's statement, each from the check it goes through. -/
structure Search.Made (s : Search) (items column vector target : List Char) : Prop where
  target : Identifier.quoteQualified s.database s.table = .ok target
  column : Identifier.quote s.column = .ok column
  items : Gate.Fragment.selectList (s.select.getD []) = .ok items
  vector : literal s.vector = .ok vector

/-- The filter of a search, without the blanks around it. -/
def Search.body (s : Search) : List Char := Text.trim (s.filter.getD [])

theorem Search.Made.settled {s : Search} {items column vector target : List Char}
    (h : s.Made items column vector target) :
    Settled (selection items column vector s.distance target) :=
  settled_selection s.distance (Gate.Fragment.settled_of_selectList h.items)
    (Identifier.settled_of_quote h.column) (content_of_literal h.vector)
    (Identifier.settled_of_quoteQualified h.target)

theorem filterClause_ok {filter : Option (List Char)} {text : List Char}
    (h : filterClause filter = .ok text) : text = clause (Text.trim (filter.getD [])) := by
  unfold filterClause at h
  split at h
  · cases h
    rfl
  · dsimp only at h
    split at h
    · cases h
    · cases h
      rfl

theorem made_of_statement {s : Search} {sql : List Char} (h : s.statement = .ok sql) :
    ∃ items column vector target, s.Made items column vector target ∧
      sql = selection items column vector s.distance target ++ clause s.body ++
        ordering (effectiveLimit s.limit) := by
  obtain ⟨target, ht, h⟩ := bind_eq_ok.1 h
  obtain ⟨column, hc, h⟩ := bind_eq_ok.1 h
  obtain ⟨items, hi, h⟩ := bind_eq_ok.1 h
  obtain ⟨vector, hv, h⟩ := bind_eq_ok.1 h
  obtain ⟨filter, hf, h⟩ := bind_eq_ok.1 h
  obtain rfl := pure_eq_ok.1 h
  obtain rfl := filterClause_ok hf
  exact ⟨items, column, vector, target, ⟨ht, hc, hi, hv⟩, rfl⟩

theorem filterClause_of_check {filter : Option (List Char)}
    (h : Gate.Fragment.checkFilter (Text.trim (filter.getD [])) = .ok ()) :
    filterClause filter = .ok (clause (Text.trim (filter.getD []))) := by
  cases filter with
  | none => rfl
  | some text =>
    have passes : Gate.Fragment.checkFilter (Text.trim text) = .ok () := h
    simp only [filterClause, passes]
    rfl

theorem statement_of_made {s : Search} {items column vector target : List Char}
    (h : s.Made items column vector target) (passes : Gate.Fragment.checkFilter s.body = .ok ()) :
    s.statement = .ok (selection items column vector s.distance target ++ clause s.body ++
      ordering (effectiveLimit s.limit)) := by
  rw [Search.statement, h.target, h.column, h.items, h.vector]
  simp only [filterClause_of_check passes]
  rfl

/-! ## Literals -/

/-- Stripping blanks what the parts quote, and nothing of the template. -/
def LiteralsKept (head body : List Char) (limit : Nat) : Prop :=
  stripLiterals (head ++ clause body ++ ordering limit) =
    stripLiterals head ++ clause (stripLiterals body) ++ ordering limit

theorem fresh_ordering (limit : Nat) : Fresh (ordering limit) :=
  ⟨by rintro (_ | _ | _) <;> nofun, nofun⟩

theorem unmarked_ordering (limit : Nat) : Unmarked (ordering limit) :=
  (tail_ordering limit).unmarked

theorem content_ordering (q : Quote) (limit : Nat) :
    ∀ c ∈ ordering limit, c ≠ q.char ∧ c ≠ '\\' := by
  intro c hc
  refine ⟨Quote.ne_char (unmarked_ordering limit c hc) q, ?_⟩
  rintro rfl
  obtain known | digit := mem_ordering hc
  · revert known; decide
  · cases digit

/-- The end of the statement is kept exactly behind live SQL. -/
theorem cover_ordering_iff (p : Place) (limit : Nat) :
    cover (blanked p (ordering limit)) (ordering limit) = ordering limit ↔ p = .live := by
  constructor
  · intro same
    cases p with
    | live => rfl
    | inside q =>
      have letter : 'O' ∈ ordering limit := List.mem_append_left _ (by decide)
      rw [blanked_within (content_ordering q limit)] at same
      rw [← same] at letter
      cases space_of_mem_cover letter
  · rintro rfl
    simpa [blanked, cover] using cover_live (unmarked_ordering limit) []

theorem where_unmarked : Unmarked " WHERE ".toList := by decide

theorem clause_cons (head : List Char) (c : Char) (body tail : List Char) :
    head ++ clause (c :: body) ++ tail = head ++ (" WHERE ".toList ++ ((c :: body) ++ tail)) := by
  simp [clause]

theorem literalsKept_iff {head : List Char} (hs : Settled head) (body : List Char) (limit : Nat) :
    LiteralsKept head body limit ↔ standing .live body = .live := by
  have fresh := fresh_ordering limit
  cases body with
  | nil =>
    have kept : stripLiterals (head ++ [] ++ ordering limit) =
        stripLiterals head ++ [] ++ ordering limit := by
      rw [List.append_nil, List.append_nil, stripLiterals_append (hs _ fresh.mark),
        stripLiterals_unmarked (unmarked_ordering limit)]
    exact iff_of_true kept rfl
  | cons c body =>
    have whole : stripLiterals (head ++ clause (c :: body) ++ ordering limit) =
        stripLiterals head ++ (" WHERE ".toList ++ (stripLiterals (c :: body) ++
          cover (blanked (standing .live (c :: body)) (ordering limit)) (ordering limit))) := by
      rw [clause_cons, stripLiterals_append (hs _ (by rintro (_ | _ | _) <;> nofun)),
        stripLiterals_append (blanked_lead where_unmarked _), stripLiterals_unmarked where_unmarked,
        stripLiterals_fresh _ fresh]
    have filled : (stripLiterals (c :: body)).isEmpty = false := by
      obtain ⟨tail, first⟩ := blanked_live_first c body
      rw [stripLiterals_eq, first]
      rfl
    rw [LiteralsKept, whole, clause, filled, ← cover_ordering_iff _ limit]
    simp

/-! ## Literals as the grammar reads them -/

theorem last_untilClosing (s : List Char) : (untilClosing s).getLast? ≠ some true := by
  cases s with
  | nil => nofun
  | cons c s =>
    rw [untilClosing_eq (List.length_cons)]
    simp

theorem last_betweenMarks (s : List Char) : (betweenMarks s).getLast? ≠ some true := by
  induction s with
  | nil => nofun
  | cons c s ih =>
    rw [betweenMarks, List.getLast?_cons]
    split
    · have := last_untilClosing s
      cases h : (untilClosing s).getLast? <;> simp_all
    · cases h : (betweenMarks s).getLast? <;> simp_all

/-- The last character of a text is inside none of its units. -/
theorem last_interiors (ls : List Lexeme) : (ls.flatMap Lexeme.interior).getLast? ≠ some true := by
  induction ls with
  | nil => nofun
  | cons l ls ih =>
    have own : l.interior.getLast? ≠ some true := by
      unfold Lexeme.interior
      split
      · exact last_betweenMarks _
      · intro last
        have := List.mem_of_getLast? last
        simp at this
    rw [List.flatMap_cons, List.getLast?_append]
    cases h : (ls.flatMap Lexeme.interior).getLast? <;> simp_all

theorem exists_blanked {head : List Char} (hs : Settled head) (body : List Char) (limit : Nat) :
    ∃ lead, blanked .live (head ++ clause body ++ ordering limit) =
      lead ++ blanked (standing .live body) (ordering limit) := by
  have fresh := fresh_ordering limit
  cases body with
  | nil =>
    refine ⟨blanked .live head, ?_⟩
    have none : head ++ clause [] = head := List.append_nil head
    rw [none, hs _ fresh.mark]
    rfl
  | cons c body =>
    refine ⟨blanked .live head ++ (blanked .live " WHERE ".toList ++ blanked .live (c :: body)), ?_⟩
    rw [clause_cons, hs _ (by rintro (_ | _ | _) <;> nofun), blanked_lead where_unmarked,
      blanked_append fresh, List.append_assoc, List.append_assoc]

/-- A filter whose literals both layers read alike closes them. -/
theorem standing_of_agree {head body : List Char} {limit : Nat} {ls : List Lexeme}
    (hs : Settled head) (agree : Gate.Agree (head ++ clause body ++ ordering limit) ls) :
    standing .live body = .live := by
  cases hp : standing .live body with
  | live => rfl
  | inside q =>
    -- All of the ordering would be blanked, and so the last character of the text.
    obtain ⟨lead, same⟩ := exists_blanked hs body limit
    obtain ⟨n, some⟩ : ∃ n, (ordering limit).length = n + 1 := ⟨_, rfl⟩
    have blank :
        (blanked .live (head ++ clause body ++ ordering limit)).getLast? = Option.some true := by
      rw [same, hp, blanked_within (content_ordering q limit), some, List.replicate_succ']
      simp
    rw [agree.blanked] at blank
    exact absurd blank (last_interiors ls)

/-! ## The statement that is read -/

/-- Ordered by the distance alone, nearest first, and limited to `limit` rows. -/
def Ordered (s : Statement) (limit : Nat) : Prop :=
  ∃ q, s = .query q ∧ q.orderBy = [⟨.column [⟨distanceColumn, false⟩], false⟩] ∧
    q.limit = ⟨some (.literal [.number (digitsOf limit)]), none, false⟩

theorem isBlank_of_isDigit {c : Char} (h : c.isDigit) : Text.isBlank c = false := by
  have := isDigit_iff.1 h
  simp [Text.isBlank]
  omega

theorem trim_ordering {c : Char} (hc : Text.isBlank c = false) (s : List Char) (limit : Nat) :
    Text.trim (c :: s ++ ordering limit) = c :: s ++ ordering limit := by
  obtain ⟨front, d, hd⟩ : ∃ front d, digitsOf limit = front ++ [d] :=
    ⟨_, _, (List.dropLast_concat_getLast (digitsOf_ne_nil limit)).symm⟩
  have digit : d.isDigit := isDigit_of_mem_digitsOf (k := limit) (by simp [hd])
  have ends : c :: s ++ ordering limit =
      c :: (s ++ (" ORDER BY _distance ASC LIMIT ".toList ++ front)) ++ [d] := by
    have same : ordering limit = " ORDER BY _distance ASC LIMIT ".toList ++ digitsOf limit := rfl
    simp only [same, hd, List.cons_append, List.append_assoc]
  rw [ends, Text.trim_of_ends hc (isBlank_of_isDigit digit)]

variable {items column vector target tail : List Char} {distance : Distance}

/-- A search begins with the word that makes it a query. -/
theorem exists_selection (tail : List Char) :
    ∃ more, selection items column vector distance target ++ tail =
      'S' :: ("ELECT".toList ++ ' ' :: more) := by
  obtain ⟨more, begins⟩ : ∃ more, selection items column vector distance target ++ tail =
      "SELECT ".toList ++ more := by
    unfold selection
    exact ⟨_, by simp only [List.append_assoc]; rfl⟩
  exact ⟨more, begins⟩

theorem trim_search (limit : Nat) :
    Text.trim (selection items column vector distance target ++ tail ++ ordering limit) =
      selection items column vector distance target ++ tail ++ ordering limit := by
  obtain ⟨behind, begins⟩ := @exists_selection items column vector target distance tail
  rw [begins, trim_ordering (by decide)]

theorem tokens_selection {ls : List Lexeme}
    (h : lexemes (selection items column vector distance target ++ tail) = .ok ls) :
    ∃ more, tokens ls = .ofName "SELECT".toList :: more := by
  obtain ⟨behind, same⟩ := exists_selection tail
  rw [same] at h
  exact tokens_of_name (by decide) (by decide) (by decide) h

/-- What is read of a text that an ordering ends, of which no comment takes the
end. -/
theorem ordered_of_read {ts after : List Token} {s : Statement} {limit : Nat}
    (hl : ending (digitsOf limit) <:+ .ofName "SELECT".toList :: ts)
    (h : Gate.readOne (.ofName "SELECT".toList :: ts) = .ok (s, after))
    (remainder : Statement.IsRemainder after) :
    after = [] ∧ Ordered s limit ∨ ∃ e more, after = e :: more ∧ e.isKey "END" := by
  -- Fifty levels: the statement's own, two for its query, and the rest.
  have read : Read.statement (.above (.above (Grammar.levels 47))) (.ofName "SELECT".toList :: ts) =
      .ok (s, after) := h
  obtain unread | ⟨rfl, q, rfl, order, count⟩ :=
    Read.ends_of_statement (Grammar.levels 47) (by decide) (.inl hl) read
  · -- What is left has the number of the limit in it.
    obtain semicolons | ended := remainder
    · cases semicolons _ unread.number_mem
    · exact .inr ended
  · exact .inl ⟨rfl, q, rfl, order, count⟩

/-- The units of a search, the statement read from them and what it leaves of
them. -/
structure Reading (sql : List Char) (ls : List Lexeme) (s : Statement) (after : List Token) :
    Prop where
  units : lexemes sql = .ok ls
  statement : Gate.readStatement sql = .ok s
  taken : Gate.readOne (tokens ls) = .ok (s, after)
  remainder : Statement.IsRemainder after

theorem reading_of_check {limit : Nat} {kind : Gate.Kind}
    (h : Gate.check (selection items column vector distance target ++ tail ++ ordering limit) =
      .ok kind) :
    ∃ ls s after, Reading
      (selection items column vector distance target ++ tail ++ ordering limit) ls s after := by
  obtain ⟨s, read, -⟩ := bind_eq_ok.1 (Gate.check_eq_ok_iff.1 h).1
  obtain ⟨ls, whole, all⟩ := Gate.readStatement_ok read
  rw [trim_search] at whole
  obtain ⟨before, taken, after, parts, leading, one, remainder⟩ :=
    Statement.readAll_single (Grammar.levels_front _) (by omega) all
  refine ⟨ls, s, after, whole, read, ?_, remainder⟩
  -- It begins with a word, so no semicolon comes before the statement.
  rw [List.append_assoc] at whole
  obtain ⟨more, first⟩ := tokens_selection whole
  cases before with
  | nil =>
    rw [parts]
    exact one
  | cons t before =>
    rw [first, leading t (by simp)] at parts
    cases parts

theorem Reading.ordered {limit : Nat} {ls : List Lexeme} {s : Statement} {after : List Token}
    (h : Reading (selection items column vector distance target ++ tail ++ ordering limit)
      ls s after)
    (live : ∀ l ∈ ls.getLast?, l.token ≠ .comment) :
    after = [] ∧ Ordered s limit ∨ ∃ e more, after = e :: more ∧ e.isKey "END" := by
  obtain ⟨more, first⟩ := tokens_selection (by rw [← List.append_assoc]; exact h.units)
  obtain ⟨l, last, comment⟩ | kept := ending_of_lexemes h.units
  · exact absurd comment (live l last)
  · have taken := h.taken
    rw [first] at kept taken
    exact ordered_of_read kept taken h.remainder

/-! ## What is sent -/

/-- How far a text keeps to the template of a search. `head` is its statement up
to the filter. -/
structure Search.Shape (s : Search) (head sql : List Char) (ls : List Lexeme) (q : Statement)
    (after : List Token) : Prop where
  text : sql = head ++ clause s.body ++ ordering (effectiveLimit s.limit)
  reading : Reading sql ls q after
  /-- A filter that leaves a literal open takes the end of the text into it. -/
  literals : LiteralsKept head s.body (effectiveLimit s.limit) ↔ standing .live s.body = .live
  /-- Only a comment at the end or the word `END` keeps the order from being read. -/
  ordered : (∀ l ∈ ls.getLast?, l.token ≠ .comment) →
    after = [] ∧ Ordered q (effectiveLimit s.limit) ∨ ∃ e more, after = e :: more ∧ e.isKey "END"
  together : ¬ ApartIn [] ls →
    LiteralsKept head s.body (effectiveLimit s.limit) ∧ ∀ l ∈ ls, l.token ≠ .comment

theorem exists_shape {s : Search} {sql : List Char} {kind : Gate.Kind} (hs : s.statement = .ok sql)
    (hk : Gate.check sql = .ok kind) :
    ∃ items column vector target ls q after, s.Made items column vector target ∧
      s.Shape (selection items column vector s.distance target) sql ls q after := by
  obtain ⟨items, column, vector, target, made, rfl⟩ := made_of_statement hs
  obtain ⟨ls, q, after, reading⟩ := reading_of_check hk
  have kept := literalsKept_iff made.settled s.body (effectiveLimit s.limit)
  refine ⟨items, column, vector, target, ls, q, after, made, rfl, reading, kept, reading.ordered,
    fun together => ?_⟩
  have whole := (trim_search _).trans ((source_lexemes reading.units).symm.trans
    (List.append_nil _).symm)
  have live := Gate.live_of_check hk whole (Gate.units_of_lexemes reading.units) together
  have agree := Gate.agree_of_live reading.units live together
  exact ⟨kept.2 (standing_of_agree made.settled agree), live⟩

/-- Every text that a search sends has the three parts of the template, with a
limit of at most a thousand at its end. Its literals are those of the parts
exactly if the filter closes its own, and its statement is ordered and limited
unless a comment takes the end or `END` stops the reading. Where both layers read
the units alike, the literals are kept and there is no comment. -/
theorem shape_of_sent {x : Executor} {input : Tool.SearchInput} {acts : List Act}
    {r : Except Error Tool.Output} (h : Program.Runs ((Tool.Call.vectorSearch input).run x) acts r)
    {t : Sent} (ht : t ∈ sentBy acts) :
    (1 ≤ effectiveLimit input.search.limit ∧ effectiveLimit input.search.limit ≤ 1000) ∧
      ∃ items column vector target ls q after, input.search.Made items column vector target ∧
        input.search.Shape (selection items column vector input.search.distance target) t.sql
          ls q after := by
  refine ⟨effectiveLimit_bounds _, ?_⟩
  obtain none | may := (Tool.heeds_run x h).1.1
  · rw [none] at ht
    cases ht
  · generalize sentBy acts = sent at ht may
    cases may with
    | search l taken hs hk =>
      obtain rfl := List.mem_singleton.1 ht
      exact exists_shape hs hk

/-! ### A shop -/

/-- The rows nearest to a vector among those of a filter. -/
def shopSearch (filter : String) : Search :=
  ⟨"shop".toList, "items".toList, "embedding".toList, [.round .single false 3 2], some 5000, none,
    some filter.toList, .cosine⟩

/-- What the one connection of the shop is sent for it. -/
def shopSent (filter : String) : List Sent :=
  sentBy (((Tool.Call.vectorSearch ⟨shopSearch filter, .json⟩).run ⟨30, 100⟩).trace
    Scripted.World.environment.answer Environment.shopWorld)

def shopHead : List Char :=
  selection "*".toList "\x60embedding\x60".toList "[1.5]".toList .cosine
    "\x60shop\x60.\x60items\x60".toList

theorem made_shop (filter : String) :
    (shopSearch filter).Made "*".toList "\x60embedding\x60".toList "[1.5]".toList
      "\x60shop\x60.\x60items\x60".toList where
  target := show Identifier.quoteQualified "shop".toList "items".toList = _ by decide +kernel
  column := show Identifier.quote "embedding".toList = _ by decide +kernel
  items := show Gate.Fragment.selectList [] = _ by decide +kernel
  vector := show literal [.round .single false 3 2] = _ by decide +kernel

/-- A filter that passes its check is sent in its place, if the whole statement
passes the gate. -/
theorem mem_shopSent {filter : String} {kind : Gate.Kind}
    (trimmed : Text.trim filter.toList = filter.toList)
    (passes : Gate.Fragment.checkFilter filter.toList = .ok ())
    (hk : Gate.check (shopHead ++ clause filter.toList ++ ordering 1000) = .ok kind) :
    ∃ t ∈ shopSent filter, t.sql = shopHead ++ clause filter.toList ++ ordering 1000 := by
  have body : (shopSearch filter).body = filter.toList := trimmed
  have sent : (shopSearch filter).statement =
      .ok (shopHead ++ clause filter.toList ++ ordering 1000) :=
    body ▸ statement_of_made (made_shop filter) (body.symm ▸ passes)
  have first : (shopSent filter).head?.map (·.sql) =
      some (shopHead ++ clause filter.toList ++ ordering 1000) := by
    simp only [shopSent, Tool.Call.run, Tool.vectorSearch, sent, Tool.gate, hk]
    rfl
  obtain ⟨t, ht, same⟩ := Option.map_eq_some_iff.1 first
  exact ⟨t, List.mem_of_head? ht, same⟩

theorem shape_of_sent_shop :
    ∃ t ∈ shopSent "name = 'it\\'s'",
      t.sql = shopHead ++ clause "name = 'it\\'s'".toList ++ ordering 1000 ∧
      (1 ≤ effectiveLimit (some 5000) ∧ effectiveLimit (some 5000) ≤ 1000) ∧
      ∃ items column vector target ls q after,
        (shopSearch "name = 'it\\'s'").Made items column vector target ∧
          (shopSearch "name = 'it\\'s'").Shape (selection items column vector .cosine target) t.sql
            ls q after := by
  have accepted : Gate.check (shopHead ++ clause "name = 'it\\'s'".toList ++ ordering 1000) =
      .ok .select := by
    unfold shopHead selection clause ordering
    -- As lists: reading the characters of a long literal one by one takes time.
    repeat rw [String.toList_ofList]
    exact Gate.check_of_passes (by decide +kernel) (by decide +kernel)
  obtain ⟨t, ht, same⟩ := mem_shopSent (by decide +kernel) (by decide +kernel) accepted
  exact ⟨t, ht, same, shape_of_sent (Program.runs_run _ _ _) ht⟩

/-- Whether a text is read as a query without an order or a limit. -/
def readUnordered (sql : List Char) : Bool :=
  match Gate.readStatement sql with
  | .ok (.query q) => q.orderBy.isEmpty && q.limit.count.isNone
  | _ => false

theorem not_ordered {sql : List Char} (h : readUnordered sql) :
    ∃ s, Gate.readStatement sql = .ok s ∧ ∀ limit, ¬ Ordered s limit := by
  unfold readUnordered at h
  split at h
  · next q hq =>
    refine ⟨.query q, hq, ?_⟩
    rintro limit ⟨_, same, order, -⟩
    cases same
    rw [order] at h
    cases h
  · cases h

/-- A filter that is sent, with a statement that is read without an order. -/
theorem mem_shopSent_unordered {filter : String} {kind : Gate.Kind}
    (trimmed : Text.trim filter.toList = filter.toList)
    (passes : Gate.Fragment.checkFilter filter.toList = .ok ())
    (read : Gate.check (shopHead ++ clause filter.toList ++ ordering 1000) = .ok kind ∧
      readUnordered (shopHead ++ clause filter.toList ++ ordering 1000)) :
    ∃ t ∈ shopSent filter, t.sql = shopHead ++ clause filter.toList ++ ordering 1000 ∧
      ∃ s, Gate.readStatement t.sql = .ok s ∧ ∀ limit, ¬ Ordered s limit := by
  obtain ⟨t, ht, same⟩ := mem_shopSent trimmed passes read.1
  exact ⟨t, ht, same, not_ordered (same ▸ read.2)⟩

/-- Two filters that are sent and keep the order and the limit from being read:
one opens a comment behind bits, where the lexical layer is still within the
literal, and one ends with `END`. -/
theorem ordering_lost :
    (∃ t ∈ shopSent "a = b'\\' #",
      t.sql = shopHead ++ clause "a = b'\\' #".toList ++ ordering 1000 ∧
      ¬ LiteralsKept shopHead "a = b'\\' #".toList 1000 ∧
      ∃ s, Gate.readStatement t.sql = .ok s ∧ ∀ limit, ¬ Ordered s limit) ∧
    ∃ t ∈ shopSent "price < 10 END",
      t.sql = shopHead ++ clause "price < 10 END".toList ++ ordering 1000 ∧
      ∃ s, Gate.readStatement t.sql = .ok s ∧ ∀ limit, ¬ Ordered s limit := by
  constructor
  · have read : Gate.check (shopHead ++ clause "a = b'\\' #".toList ++ ordering 1000) =
        .ok .select ∧ readUnordered (shopHead ++ clause "a = b'\\' #".toList ++ ordering 1000) := by
      unfold shopHead selection clause ordering
      repeat rw [String.toList_ofList]
      exact ⟨Gate.check_of_passes (by decide +kernel) (by decide +kernel), by decide +kernel⟩
    obtain ⟨t, ht, same, unordered⟩ :=
      mem_shopSent_unordered (by decide +kernel) (by decide +kernel) read
    refine ⟨t, ht, same, ?_, unordered⟩
    unfold LiteralsKept
    decide +kernel
  · have read : Gate.check (shopHead ++ clause "price < 10 END".toList ++ ordering 1000) =
        .ok .select ∧
        readUnordered (shopHead ++ clause "price < 10 END".toList ++ ordering 1000) := by
      unfold shopHead selection clause ordering
      repeat rw [String.toList_ofList]
      exact ⟨Gate.check_of_passes (by decide +kernel) (by decide +kernel), by decide +kernel⟩
    exact mem_shopSent_unordered (by decide +kernel) (by decide +kernel) read

end QueryGate.Vector
