import QueryGate.Proofs.Standing
/-!
# The literals of a text

What stripping leaves of a text, by a grammar of its literals. `Parts` says how
a text is made of live characters and literals; a text is made so in one way
only, and `literals_stripped` says of every byte what becomes of it: the inside
of a literal becomes spaces, and nothing else is changed.
-/

namespace QueryGate.Sql

open Text.Utf8 (encode)

/-! ## The grammar -/

/-- What may stand between the marks of a literal: characters other than its
mark, marks in pairs, and any character behind a backslash that escapes it. -/
inductive Content (q : Quote) : List Char → Prop where
  | nil : Content q []
  | plain {c : Char} {s : List Char} :
      c ≠ q.char → ¬ (q.escapes ∧ c = '\\') → Content q s → Content q (c :: s)
  | escaped {c : Char} {s : List Char} : q.escapes → Content q s → Content q ('\\' :: c :: s)
  | doubled {s : List Char} : Content q s → Content q (q.char :: q.char :: s)

/-- What may stand behind the mark of a literal that nothing closes. A backslash
at the very end has nothing to escape. -/
inductive Unclosed (q : Quote) : List Char → Prop where
  | content {s : List Char} : Content q s → Unclosed q s
  | backslash {s : List Char} : q.escapes → Content q s → Unclosed q (s ++ ['\\'])

inductive Part where
  | live (c : Char)
  /-- A literal, by what stands between its marks. -/
  | closed (q : Quote) (inner : List Char)
  /-- A literal that runs to the end of the text. -/
  | unclosed (q : Quote) (inner : List Char)
  deriving Repr, DecidableEq

/-- The parts a text is made of. A mark closes a literal if it is not doubled. -/
inductive Parts : List Part → List Char → Prop where
  | nil : Parts [] []
  | live {c : Char} {ps : List Part} {s : List Char} :
      (∀ q : Quote, c ≠ q.char) → Parts ps s → Parts (.live c :: ps) (c :: s)
  | closed {q : Quote} {inner s : List Char} {ps : List Part} :
      Content q inner → s.head? ≠ some q.char → Parts ps s →
      Parts (.closed q inner :: ps) (q.char :: inner ++ q.char :: s)
  | unclosed {q : Quote} {inner : List Char} :
      Unclosed q inner → Parts [.unclosed q inner] (q.char :: inner)

/-! ## Where literals close -/

theorem closing_of_content {q : Quote} {inner s : List Char} (h : Content q inner)
    (hs : s.head? ≠ some q.char) :
    Token.closing q.char q.escapes (inner ++ q.char :: s) = some (inner.length + 1) := by
  have mark := q.not_escapes_mark
  induction h with
  | nil =>
    cases s with
    | nil => simp [Token.closing]
    | cons d s =>
      have other : d ≠ q.char := by simpa using hs
      rw [List.nil_append, Token.closing, if_neg mark, if_pos rfl, if_neg other]
      rfl
  | @plain c inner hc escape _ ih =>
    cases inner with
    | nil =>
      rw [List.nil_append] at ih
      rw [List.singleton_append, Token.closing, if_neg escape, if_neg hc, ih]
      rfl
    | cons d inner =>
      rw [List.cons_append] at ih
      rw [List.cons_append, List.cons_append, Token.closing, if_neg escape, if_neg hc, ih]
      rfl
  | escaped escape _ ih =>
    rw [List.cons_append, List.cons_append, Token.closing, if_pos ⟨escape, rfl⟩, ih]
    rfl
  | doubled _ ih =>
    rw [List.cons_append, List.cons_append, Token.closing, if_neg mark, if_pos rfl, if_pos rfl, ih]
    rfl

/-- The text on which a literal does not close. -/
theorem closing_of_unclosed {q : Quote} {inner : List Char} (h : Unclosed q inner) :
    Token.closing q.char q.escapes inner = none := by
  have mark := q.not_escapes_mark
  have none_behind {s more : List Char} (hs : Content q s)
      (hm : Token.closing q.char q.escapes more = none) :
      Token.closing q.char q.escapes (s ++ more) = none := by
    induction hs with
    | nil => exact hm
    | @plain c s hc escape _ ih =>
      cases hx : s ++ more with
      | nil => simp [hx, Token.closing, hc]
      | cons d r =>
        rw [hx] at ih
        rw [List.cons_append, hx, Token.closing, if_neg escape, if_neg hc, ih]
        rfl
    | escaped escape _ ih =>
      rw [List.cons_append, List.cons_append, Token.closing, if_pos ⟨escape, rfl⟩, ih]
      rfl
    | doubled _ ih =>
      rw [List.cons_append, List.cons_append, Token.closing, if_neg mark, if_pos rfl, if_pos rfl,
        ih]
      rfl
  cases h with
  | content hs => simpa using @none_behind _ [] hs rfl
  | backslash _ hs =>
    refine none_behind hs ?_
    rw [Token.closing, if_neg (Token.escapable q).symm]

theorem Unclosed.lead {q : Quote} {s t : List Char} (h : Unclosed q s)
    (grow : ∀ r, Content q r → Content q (t ++ r)) : Unclosed q (t ++ s) := by
  cases h with
  | content hs => exact .content (grow _ hs)
  | backslash escape hs => exact List.append_assoc t _ _ ▸ .backslash escape (grow _ hs)

/-- What may stand behind an opening mark. -/
inductive Opened (q : Quote) : List Char → Prop where
  | closes {inner rest : List Char} :
      Content q inner → rest.head? ≠ some q.char → Opened q (inner ++ q.char :: rest)
  | runs {s : List Char} : Unclosed q s → Opened q s

theorem Opened.lead {q : Quote} {s t : List Char} (h : Opened q s)
    (grow : ∀ r, Content q r → Content q (t ++ r)) : Opened q (t ++ s) := by
  cases h with
  | closes content next => exact List.append_assoc t _ _ ▸ .closes (grow _ content) next
  | runs unclosed => exact .runs (unclosed.lead grow)

theorem opened (q : Quote) (s : List Char) : Opened q s := by
  fun_induction Token.closing q.char q.escapes s with
  | case1 => exact .runs (.content .nil)
  | case2 => exact @Opened.closes _ [] _ .nil (by simp)
  | case3 c hc =>
    by_cases escape : q.escapes ∧ c = '\\'
    · obtain ⟨escape, rfl⟩ := escape
      exact .runs (.backslash escape .nil)
    · exact .runs (.content (.plain hc escape .nil))
  | case4 c d r h ih =>
    obtain ⟨escape, rfl⟩ := h
    exact ih.lead (t := ['\\', d]) fun _ => .escaped escape
  | case5 r _ ih => exact ih.lead (t := [q.char, q.char]) fun _ => .doubled
  | case6 d r hd _ => exact @Opened.closes _ [] _ .nil (by simpa using hd)
  | case7 c d r escape hc ih => exact ih.lead (t := [c]) fun _ => .plain hc escape

/-! ## One way to read a text -/

theorem exists_parts (s : List Char) : ∃ ps, Parts ps s := by
  induction hn : s.length using Nat.strongRecOn generalizing s with
  | ind n ih =>
    subst hn
    cases s with
    | nil => exact ⟨[], .nil⟩
    | cons c s =>
      cases hc : Quote.ofChar? c with
      | none =>
        obtain ⟨ps, h⟩ := ih s.length (by simp) s rfl
        exact ⟨.live c :: ps, .live (Quote.ne_char hc) h⟩
      | some q =>
        obtain rfl := Quote.ofChar?_eq_some.1 hc
        cases opened q s with
        | @closes inner rest content next =>
          obtain ⟨ps, h⟩ := ih rest.length (by simp; omega) rest rfl
          exact ⟨.closed q inner :: ps, .closed content next h⟩
        | runs unclosed => exact ⟨[.unclosed q s], .unclosed unclosed⟩

/-- How a text that begins with a mark is made. -/
theorem Parts.opening {q : Quote} {s : List Char} {ps : List Part} (h : Parts ps (q.char :: s)) :
    (∃ inner rest ps', ps = .closed q inner :: ps' ∧ s = inner ++ q.char :: rest ∧
      Token.closing q.char q.escapes s = some (inner.length + 1) ∧ Parts ps' rest) ∨
    (ps = [.unclosed q s] ∧ Token.closing q.char q.escapes s = none) := by
  generalize ht : q.char :: s = t at h
  cases h with
  | nil => cases ht
  | live hc _ => exact absurd (List.cons.inj ht).1.symm (hc q)
  | @closed q' inner rest ps' content next rest_parts =>
    obtain ⟨mark, rfl⟩ := List.cons.inj ht
    obtain rfl := Quote.char_inj mark
    exact .inl ⟨inner, rest, ps', rfl, rfl, closing_of_content content next, rest_parts⟩
  | unclosed unclosed =>
    obtain ⟨mark, rfl⟩ := List.cons.inj ht
    obtain rfl := Quote.char_inj mark
    exact .inr ⟨rfl, closing_of_unclosed unclosed⟩

theorem parts_unique {s : List Char} {ps ps' : List Part} (h : Parts ps s) (h' : Parts ps' s) :
    ps' = ps := by
  induction h generalizing ps' with
  | nil =>
    cases h' with
    | nil => rfl
  | live hc _ ih =>
    generalize ht : _ :: _ = t at h'
    cases h' with
    | nil => cases ht
    | live _ rest =>
      obtain ⟨rfl, rfl⟩ := List.cons.inj ht
      rw [ih rest]
    | @closed q _ _ _ _ _ _ => exact absurd (List.cons.inj ht).1 (hc q)
    | @unclosed q _ _ => exact absurd (List.cons.inj ht).1 (hc q)
  | @closed q inner s ps content next _ ih =>
    have closes := closing_of_content content next
    obtain ⟨inner', rest, ps', rfl, same, closes', rest_parts⟩ | ⟨-, unclosed⟩ := h'.opening
    · -- Both close at the same place, so they have the same inside.
      have length : inner.length = inner'.length := by
        have := closes.symm.trans closes'
        simpa using this
      obtain ⟨rfl, more⟩ := List.append_inj same length
      obtain rfl := (List.cons.inj more).2
      rw [ih rest_parts]
    · exact absurd (closes.symm.trans unclosed) (by simp)
  | unclosed unclosed =>
    obtain ⟨inner', rest, ps', -, -, closes, -⟩ | ⟨rfl, -⟩ := h'.opening
    · exact absurd (closes.symm.trans (closing_of_unclosed unclosed)) (by simp)
    · rfl

/-! ## Stripping part by part -/

/-- A space for every byte. -/
def blanks (s : List Char) : List Char := List.replicate (encode s).length ' '

namespace Part

def text : Part → List Char
  | live c => [c]
  | closed q inner => q.char :: inner ++ [q.char]
  | unclosed q inner => q.char :: inner

/-- The part with nothing but spaces between its marks. -/
def emptied : Part → Part
  | live c => live c
  | closed q inner => closed q (blanks inner)
  | unclosed q inner => unclosed q (blanks inner)

/-- For every byte of the part, whether it is the inside of a literal. -/
def inside : Part → List Bool
  | live c => (String.utf8EncodeChar c).map fun _ => false
  | closed _ inner => false :: (encode inner).map (fun _ => true) ++ [false]
  | unclosed _ inner => false :: (encode inner).map fun _ => true

end Part

theorem cover_true (s : List Char) : cover (List.replicate s.length true) s = blanks s := by
  induction s with
  | nil => rfl
  | cons c s ih =>
    rw [List.length_cons, List.replicate_succ, cover, if_pos rfl, ih, blanks, blanks, encode_cons,
      List.length_append, spaces, List.map_const', List.replicate_append_replicate]

theorem encode_blanks (s : List Char) : encode (blanks s) = (encode s).map fun _ => space := by
  rw [blanks, List.map_const']
  induction (encode s).length with
  | zero => rfl
  | succ n ih => rw [List.replicate_succ, encode_cons, ih]; rfl

/-- As many spaces as there are bytes stand for themselves. -/
theorem blanks_blanks (s : List Char) : blanks (blanks s) = blanks s := by
  have length : (encode (blanks s)).length = (encode s).length := by
    rw [encode_blanks, List.length_map]
  rw [blanks, length, blanks]

theorem content_blanks (q : Quote) (s : List Char) : Content q (blanks s) := by
  rw [blanks]
  induction (encode s).length with
  | zero => exact .nil
  | succ n ih => exact .plain (by cases q <;> decide) (by simp) ih

theorem Parts.text {ps : List Part} {s : List Char} (h : Parts ps s) :
    s = ps.flatMap Part.text := by
  induction h with
  | nil => rfl
  | live _ _ ih => rw [List.flatMap_cons, ← ih]; rfl
  | closed _ _ _ ih =>
    rw [List.flatMap_cons, ← ih, Part.text, List.append_assoc, List.singleton_append]
  | unclosed => simp [Part.text]

theorem Parts.stripped {ps : List Part} {s : List Char} (h : Parts ps s) :
    stripLiterals s = (ps.map Part.emptied).flatMap Part.text := by
  rw [stripLiterals_eq]
  induction h with
  | nil => rfl
  | @live c ps s hc _ ih =>
    have live : Quote.ofChar? c = none := by
      cases hq : Quote.ofChar? c with
      | none => rfl
      | some q => exact absurd (Quote.ofChar?_eq_some.1 hq) (hc q)
    rw [blanked, live, cover, ih]
    rfl
  | @closed q inner s ps content next _ ih =>
    obtain ⟨n, hn, same⟩ | ⟨hn, -⟩ := blanked_inside q (inner ++ q.char :: s)
    · rw [closing_of_content content next] at hn
      obtain rfl : inner.length = n := by simpa using hn
      rw [List.cons_append, blanked_opening, same, cover, cover_append (by simp), cover_true, cover,
        List.drop_length_add_append, List.drop_succ_cons, List.drop_zero, ih]
      simp [Part.emptied, Part.text]
    · rw [closing_of_content content next] at hn
      cases hn
  | @unclosed q inner unclosed =>
    obtain ⟨n, hn, -⟩ | ⟨-, same⟩ := blanked_inside q inner
    · rw [closing_of_unclosed unclosed] at hn
      cases hn
    · rw [blanked_opening, same, cover, cover_true]
      simp [Part.emptied, Part.text]

/-- The first character of a text is inside no literal. -/
theorem stripLiterals_head (s : List Char) : (stripLiterals s).head? = s.head? := by
  rw [stripLiterals_eq]
  cases s with
  | nil => rfl
  | cons c s => rw [blanked]; split <;> rfl

theorem Parts.emptied {ps : List Part} {s : List Char} (h : Parts ps s) :
    Parts (ps.map Part.emptied) (stripLiterals s) := by
  have same := h.stripped
  induction h with
  | nil => exact .nil
  | @live c ps s hc h ih =>
    rw [same, List.map_cons, List.flatMap_cons, ← h.stripped]
    exact .live hc (ih h.stripped)
  | @closed q inner s ps _ next h ih =>
    rw [same, List.map_cons, List.flatMap_cons, ← h.stripped, Part.emptied, Part.text,
      List.append_assoc, List.singleton_append]
    exact .closed (content_blanks q inner) (by rwa [stripLiterals_head]) (ih h.stripped)
  | @unclosed q inner _ =>
    rw [same]
    simpa [Part.emptied, Part.text] using Parts.unclosed (.content (content_blanks q inner))

/-- What is stripped has nothing left to strip. -/
theorem stripLiterals_twice (s : List Char) :
    stripLiterals (stripLiterals s) = stripLiterals s := by
  obtain ⟨ps, h⟩ := exists_parts s
  have again (p : Part) : p.emptied.emptied = p.emptied := by
    cases p <;> simp [Part.emptied, blanks_blanks]
  rw [h.emptied.stripped, h.stripped, List.map_map]
  simp [Function.comp_def, again]

/-! ## Stripping byte by byte -/

/-- A byte of the stripped text, by where the byte of the text stands. -/
def strippedByte (inside : Bool) (b : UInt8) : UInt8 := if inside then space else b

theorem Part.length_inside (p : Part) : p.inside.length = (encode p.text).length := by
  cases p <;> simp [Part.inside, Part.text, Quote.encode_char, encode]

theorem strip_outside (bs : List UInt8) :
    List.zipWith strippedByte (bs.map fun _ => false) bs = bs := by
  induction bs with
  | nil => rfl
  | cons b bs ih => exact congrArg (b :: ·) ih

theorem strip_inside (bs : List UInt8) :
    List.zipWith strippedByte (bs.map fun _ => true) bs = bs.map fun _ => space := by
  induction bs with
  | nil => rfl
  | cons b bs ih => exact congrArg (space :: ·) ih

theorem encode_mark (q : Quote) (s : List Char) : encode (q.char :: s) = q.mark :: encode s := by
  rw [encode_cons, q.encode_char, List.singleton_append]

theorem encode_emptied (p : Part) :
    encode p.emptied.text = List.zipWith strippedByte p.inside (encode p.text) := by
  cases p with
  | live c =>
    have one : encode [c] = String.utf8EncodeChar c := List.append_nil _
    rw [Part.emptied, Part.text, Part.inside, one, strip_outside]
  | closed q inner =>
    have length : (false :: (encode inner).map fun _ => true).length =
        (q.mark :: encode inner).length := by simp
    rw [Part.emptied, Part.text, Part.text, Part.inside, encode_append, encode_append, encode_mark,
      encode_mark, encode_mark, encode_blanks, List.zipWith_append length, List.zipWith_cons_cons,
      strip_inside]
    rfl
  | unclosed q inner =>
    rw [Part.emptied, Part.text, Part.text, Part.inside, encode_mark, encode_mark, encode_blanks,
      List.zipWith_cons_cons, strip_inside]
    rfl

theorem length_insides (ps : List Part) :
    (ps.flatMap Part.inside).length = (encode (ps.flatMap Part.text)).length := by
  induction ps with
  | nil => rfl
  | cons p ps ih => simp [encode_append, Part.length_inside, ih]

theorem encode_emptied_parts (ps : List Part) :
    encode ((ps.map Part.emptied).flatMap Part.text) =
      List.zipWith strippedByte (ps.flatMap Part.inside) (encode (ps.flatMap Part.text)) := by
  induction ps with
  | nil => rfl
  | cons p ps ih =>
    rw [List.map_cons, List.flatMap_cons, List.flatMap_cons, List.flatMap_cons, encode_append,
      encode_append, ih, encode_emptied, List.zipWith_append p.length_inside]

theorem decode?_encode (s : List Char) : Text.Utf8.decode? (encode s) = some s := by
  rw [Text.Utf8.decode?, Text.Utf8.characters_encode]
  induction s with
  | nil => rfl
  | cons c s ih => simp [List.mapM_cons, ih]

/-- A text is made of live characters and literals in one way. Stripping puts a
space for every byte inside a literal, keeps every other byte, and its bytes are
well-formed as they are. -/
theorem literals_stripped (s : List Char) :
    ∃ ps, Parts ps s ∧ (∀ others, Parts others s → others = ps) ∧
      (ps.flatMap Part.inside).length = (encode s).length ∧
      (encode (stripLiterals s)).length = (encode s).length ∧
      encode (stripLiterals s) = List.zipWith strippedByte (ps.flatMap Part.inside) (encode s) ∧
      Text.Utf8.decode? (blank .live (encode s)) = some (stripLiterals s) := by
  obtain ⟨ps, h⟩ := exists_parts s
  have flags : (ps.flatMap Part.inside).length = (encode s).length := by
    rw [length_insides, ← h.text]
  have bytes : encode (stripLiterals s) =
      List.zipWith strippedByte (ps.flatMap Part.inside) (encode s) := by
    rw [h.stripped, encode_emptied_parts, ← h.text]
  refine ⟨ps, h, fun others h' => parts_unique h h', flags, ?_, bytes, ?_⟩
  · rw [bytes, List.length_zipWith, flags, Nat.min_self]
  · rw [blank_encode, ← stripLiterals_eq, decode?_encode]

/-- A backslash escapes a whole character, of as many bytes as it has. -/
example : stripLiterals "a'\\日'b".toList = "a'    'b".toList := by decide +kernel

end QueryGate.Sql
