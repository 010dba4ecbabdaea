import QueryGate.Proofs.Stripping
/-!
# Where two texts meet

Stripping reads a text from its beginning, so what it leaves of a text hangs on
what stands before it. Behind a text that closes all its literals it begins anew,
but for one thing: a mark behind the mark that closes a literal doubles it, and
then the literal goes on. `stripped_apart` says that nothing else can happen.
-/

namespace QueryGate.Sql

variable {q : Quote} {c : Char} {s t inner : List Char} {ps : List Part}

/-! ## Closed texts -/

def Part.IsClosed : Part → Prop
  | .unclosed .. => False
  | _ => True

/-- A text that closes all its literals. -/
def Closed (s : List Char) : Prop := ∃ ps, Parts ps s ∧ ∀ p ∈ ps, p.IsClosed

/-- A text that ends with the mark that closes its last literal. -/
def EndsLiteral (q : Quote) (s : List Char) : Prop :=
  ∃ ps inner, Parts ps s ∧ ps.getLast? = some (.closed q inner)

theorem Quote.ofChar?_eq_none (h : ∀ q : Quote, c ≠ q.char) : ofChar? c = none := by
  cases hc : ofChar? c with
  | none => rfl
  | some q => exact absurd (ofChar?_eq_some.1 hc) (h q)

theorem standing_live (h : ∀ q : Quote, c ≠ q.char) (s : List Char) :
    standing .live (c :: s) = standing .live s := by
  rw [standing, Quote.ofChar?_eq_none h]

theorem standing_opening (q : Quote) (s : List Char) :
    standing .live (q.char :: s) = standing (.inside q) s := by
  rw [standing, q.ofChar?_char]

/-- The content of a literal does not end it, whatever comes next. -/
theorem standing_content (h : Content q inner) (more : List Char) :
    standing (.inside q) (inner ++ more) = standing (.inside q) more := by
  have mark := q.not_escapes_mark
  induction h with
  | nil => rfl
  | @plain c s hc escape _ ih =>
    rw [← ih, List.cons_append]
    cases s ++ more with
    | nil => simp [standing, hc]
    | cons d r => rw [standing, if_neg escape, if_neg hc]
  | escaped escape _ ih =>
    rw [← ih, List.cons_append, List.cons_append, standing, if_pos ⟨escape, rfl⟩]
  | doubled _ ih =>
    rw [← ih, List.cons_append, List.cons_append, standing, if_neg mark, if_pos rfl, if_pos rfl]

theorem standing_mark (h : s.head? ≠ some q.char) :
    standing (.inside q) (q.char :: s) = standing .live s := by
  have mark := q.not_escapes_mark
  cases s with
  | nil => simp [standing]
  | cons d s =>
    have other : d ≠ q.char := by simpa using h
    conv => lhs; rw [standing, if_neg mark, if_pos rfl, if_neg other]

theorem standing_unclosed (h : Unclosed q inner) : standing (.inside q) inner = .inside q := by
  cases h with
  | content hs => simpa [standing] using standing_content hs []
  | backslash _ hs =>
    rw [standing_content hs, standing, if_neg (Token.escapable q).symm]

/-- Blanking stands in live SQL behind exactly the texts with no open literal. -/
theorem Parts.standing_eq_live (h : Parts ps s) :
    standing .live s = .live ↔ ∀ p ∈ ps, p.IsClosed := by
  induction h with
  | nil => simp [standing]
  | live hc _ ih => simp [standing_live hc, ih, Part.IsClosed]
  | @closed q inner s ps content next _ ih =>
    rw [List.cons_append, standing_opening, standing_content content, standing_mark next, ih]
    simp [Part.IsClosed]
  | @unclosed q inner unclosed =>
    rw [standing_opening, standing_unclosed unclosed]
    simp [Part.IsClosed]

theorem closed_iff : Closed s ↔ standing .live s = .live := by
  constructor
  · rintro ⟨ps, h, closed⟩
    exact h.standing_eq_live.2 closed
  · intro live
    obtain ⟨ps, h⟩ := exists_parts s
    exact ⟨ps, h, h.standing_eq_live.1 live⟩

instance (s : List Char) : Decidable (Closed s) := decidable_of_iff _ closed_iff.symm

/-! ## Stripping the first part -/

theorem stripLiterals_live (h : ∀ q : Quote, c ≠ q.char) (s : List Char) :
    stripLiterals (c :: s) = c :: stripLiterals s := by
  obtain ⟨ps, hs⟩ := exists_parts s
  rw [(Parts.live h hs).stripped, hs.stripped]
  rfl

theorem stripLiterals_closed (content : Content q inner) (next : s.head? ≠ some q.char) :
    stripLiterals (q.char :: inner ++ q.char :: s) =
      q.char :: blanks inner ++ q.char :: stripLiterals s := by
  obtain ⟨ps, hs⟩ := exists_parts s
  rw [(Parts.closed content next hs).stripped, hs.stripped]
  simp [Part.emptied, Part.text]

theorem stripLiterals_unclosed (h : Unclosed q inner) :
    stripLiterals (q.char :: inner) = q.char :: blanks inner := by
  rw [(Parts.unclosed h).stripped]
  simp [Part.emptied, Part.text]

theorem blanked_inside_content (h : Content q inner) (more : List Char) :
    blanked (.inside q) (inner ++ more) =
      List.replicate inner.length true ++ blanked (.inside q) more := by
  have mark := q.not_escapes_mark
  induction h with
  | nil => rfl
  | @plain c s hc escape _ ih =>
    rw [List.length_cons, List.replicate_succ, List.cons_append, List.cons_append, ← ih]
    cases s ++ more with
    | nil => simp [blanked, hc]
    | cons d r => rw [blanked, if_neg escape, if_neg hc]
  | escaped escape _ ih =>
    rw [List.cons_append, List.cons_append, blanked, if_pos ⟨escape, rfl⟩, ih]
    rfl
  | doubled _ ih =>
    rw [List.cons_append, List.cons_append, blanked, if_neg mark, if_pos rfl, if_pos rfl, ih]
    rfl

/-- A doubled mark is blanked with the rest of the literal. -/
theorem stripLiterals_doubled (content : Content q inner) (more : List Char) :
    ∃ more', stripLiterals (q.char :: inner ++ q.char :: q.char :: more) =
      q.char :: blanks inner ++ ' ' :: more' := by
  have mark := q.not_escapes_mark
  have space : spaces q.char = [' '] := by cases q <;> rfl
  refine ⟨' ' :: cover (blanked (.inside q) more) more, ?_⟩
  rw [stripLiterals_eq, List.cons_append, blanked_opening, blanked_inside_content content, cover,
    cover_append (by simp), cover_true, blanked, if_neg mark, if_pos rfl, if_pos rfl, cover, cover,
    if_pos rfl, space]
  rfl

/-! ## Stripping two texts -/

theorem Parts.eq_nil_iff (h : Parts ps s) : ps = [] ↔ s = [] := by
  cases h <;> simp

/-- The last part of a text that begins with a literal, and what may not follow it. -/
theorem Parts.seam_closed (h : Parts ps s) (next : s.head? ≠ some q.char) (t : List Char) :
    (∀ p i, (Part.closed q inner :: ps).getLast? = some (.closed p i) → t.head? ≠ some p.char) ↔
      (∀ p i, ps.getLast? = some (.closed p i) → t.head? ≠ some p.char) ∧
        (s ++ t).head? ≠ some q.char := by
  cases ps with
  | nil =>
    obtain rfl := h.eq_nil_iff.1 rfl
    simp
  | cons p ps =>
    obtain ⟨c, s, rfl⟩ := List.exists_cons_of_ne_nil (mt h.eq_nil_iff.2 (by simp))
    rw [List.getLast?_cons_cons]
    exact (and_iff_left next).symm

/-- Behind a closed text stripping begins anew, unless its last mark is doubled. -/
theorem Parts.stripLiterals_append_iff (h : Parts ps s) (closed : ∀ p ∈ ps, p.IsClosed)
    (t : List Char) :
    stripLiterals (s ++ t) = stripLiterals s ++ stripLiterals t ↔
      ∀ q inner, ps.getLast? = some (.closed q inner) → t.head? ≠ some q.char := by
  induction h with
  | nil => simp [stripLiterals_unmarked unmarked_nil]
  | @live c ps s hc hs ih =>
    have last (q : Quote) (inner : List Char) :
        (Part.live c :: ps).getLast? = some (.closed q inner) ↔
          ps.getLast? = some (.closed q inner) := by
      cases ps <;> simp [List.getLast?_cons_cons]
    rw [List.cons_append, stripLiterals_live hc, stripLiterals_live hc, List.cons_append,
      List.cons_inj_right, ih (List.forall_mem_cons.1 closed).2]
    simp only [last]
  | @closed q inner s ps content next hs ih =>
    have rest := ih (List.forall_mem_cons.1 closed).2
    have whole : q.char :: inner ++ q.char :: s ++ t = q.char :: inner ++ q.char :: (s ++ t) := by
      simp
    rw [hs.seam_closed next, ← rest, whole, stripLiterals_closed content next]
    by_cases doubled : (s ++ t).head? = some q.char
    · obtain ⟨more, same⟩ := List.head?_eq_some_iff.1 doubled
      obtain ⟨more', stripped⟩ := stripLiterals_doubled content more
      rw [same, stripped]
      refine iff_of_false ?_ (by simp)
      intro equal
      rw [List.append_assoc, List.append_cancel_left_eq] at equal
      have mark : ' ' = q.char := (List.cons.inj equal).1
      cases q <;> cases mark
    · rw [stripLiterals_closed content doubled, and_iff_left doubled]
      simp
  | unclosed => exact absurd closed (by simp [Part.IsClosed])

theorem endsLiteral_iff (h : Parts ps s) :
    EndsLiteral q s ↔ ∃ inner, ps.getLast? = some (.closed q inner) := by
  constructor
  · rintro ⟨ps', inner, h', last⟩
    exact ⟨inner, parts_unique h h' ▸ last⟩
  · rintro ⟨inner, last⟩
    exact ⟨ps, inner, h, last⟩

theorem EndsLiteral.getLast? (h : EndsLiteral q s) : s.getLast? = some q.char := by
  obtain ⟨ps, inner, parts, last⟩ := h
  obtain ⟨front, rfl⟩ := List.getLast?_eq_some_iff.1 last
  rw [parts.text, List.flatMap_append]
  simp [Part.text, List.getLast?_cons]

/-- Stripping a stripped text changes nothing. Behind a text that closes all its
literals another is stripped as it is alone, exactly if it does not begin with the
mark that ends the first. -/
theorem stripped_apart (s : List Char) :
    stripLiterals (stripLiterals s) = stripLiterals s ∧
      (Closed s → ∀ t, stripLiterals (s ++ t) = stripLiterals s ++ stripLiterals t ↔
        ∀ q, EndsLiteral q s → t.head? ≠ some q.char) := by
  refine ⟨stripLiterals_twice s, ?_⟩
  rintro ⟨ps, h, closed⟩ t
  rw [h.stripLiterals_append_iff closed]
  simp only [endsLiteral_iff h, forall_exists_index]

/-- Two literals with marks of two kinds, the first of them with a doubled mark in it. -/
theorem stripped_apart_marks :
    Closed "a = 'it''s;'".toList ∧
      stripLiterals ("a = 'it''s;'".toList ++ "\";\"".toList) =
        "a = '      '\" \"".toList :=
  have closed : Closed "a = 'it''s;'".toList := by decide
  have last : ∀ q : Quote, "a = 'it''s;'".toList.getLast? = some q.char →
      "\";\"".toList.head? ≠ some q.char := by
    intro q
    cases q <;> decide
  ⟨closed, by
    rw [((stripped_apart _).2 closed _).2 fun q h => last q h.getLast?]
    decide⟩

end QueryGate.Sql
