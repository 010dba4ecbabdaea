import QueryGate.Proofs.Text.Utf8
import QueryGate.Proofs.Text.Words
import QueryGate.Proofs.Unit.Closing
import QueryGate.Sql.Literal
/-!
# What is blanked

Literals are blanked byte by byte. Marks and backslashes are bytes of their own
and no byte of a longer character is one of them, so whole characters are blanked
or kept, and which of them are can be told from the characters alone.
-/

namespace QueryGate.Sql

open Text.Utf8 (encode)

/-- The mark as a character. -/
def Quote.char : Quote → Char
  | single => '\''
  | double => '"'
  | backtick => '\x60'

def Quote.ofChar? (c : Char) : Option Quote :=
  if c = single.char then some single
  else if c = double.char then some double
  else if c = backtick.char then some backtick
  else none

/-- Which characters of a text are inside its literals, as blanking finds them. -/
def blanked : Place → List Char → List Bool
  | _, [] => []
  | .live, c :: s =>
    match Quote.ofChar? c with
    | some q => false :: blanked (.inside q) s
    | none => false :: blanked .live s
  | .inside q, [c] => [c ≠ q.char]
  | .inside q, c :: d :: s =>
    if q.escapes ∧ c = '\\' then true :: true :: blanked (.inside q) s
    else if c = q.char then
      if d = q.char then true :: true :: blanked (.inside q) s
      else false :: blanked .live (d :: s)
    else true :: blanked (.inside q) (d :: s)

/-- A space for every byte of a character. -/
def spaces (c : Char) : List Char := (String.utf8EncodeChar c).map fun _ => ' '

/-- The text with spaces for what is blanked. -/
def cover : List Bool → List Char → List Char
  | h :: hs, c :: s => (if h then spaces c else [c]) ++ cover hs s
  | _, _ => []

/-! ## Bytes of one character -/

theorem encode_cons (c : Char) (s : List Char) :
    encode (c :: s) = String.utf8EncodeChar c ++ encode s := rfl

theorem encode_ascii {c : Char} (h : c.toNat < 128) :
    String.utf8EncodeChar c = [UInt8.ofNat c.toNat] := by
  simp [String.utf8EncodeChar, show c.toNat ≤ 127 by omega]

/-- A longer character has only bytes that are no character of their own. -/
theorem encode_wide {c : Char} (h : 128 ≤ c.toNat) :
    ∃ b bs, String.utf8EncodeChar c = b :: bs ∧ ∀ x ∈ b :: bs, 128 ≤ x.toNat := by
  unfold String.utf8EncodeChar
  simp only [Char.toNat_val]
  rw [if_neg (by omega)]
  split
  · refine ⟨_, _, rfl, ?_⟩
    simp
    omega
  split
  · refine ⟨_, _, rfl, ?_⟩
    simp
    omega
  · refine ⟨_, _, rfl, ?_⟩
    simp
    omega

/-- An ASCII character has its byte to itself. -/
theorem encode_apart {a c : Char} (ha : a.toNat < 128) (h : c ≠ a) :
    ∀ b ∈ String.utf8EncodeChar c, b ≠ UInt8.ofNat a.toNat := by
  rintro b hb rfl
  have byte : (UInt8.ofNat a.toNat).toNat = a.toNat := by simp; omega
  cases Nat.lt_or_ge c.toNat 128 with
  | inl ascii =>
    rw [encode_ascii ascii, List.mem_singleton] at hb
    have same := congrArg UInt8.toNat hb
    have byte' : (UInt8.ofNat c.toNat).toNat = c.toNat := by simp; omega
    rw [byte, byte'] at same
    exact h (Char.toNat_inj.1 same.symm)
  | inr wide =>
    obtain ⟨b, bs, same, high⟩ := encode_wide wide
    have := high _ (same ▸ hb)
    omega

namespace Quote

theorem encode_char (q : Quote) : String.utf8EncodeChar q.char = [q.mark] := by cases q <;> rfl

theorem mark_encode {c : Char} {q : Quote} (h : c ≠ q.char) :
    ∀ b ∈ String.utf8EncodeChar c, b ≠ q.mark := by
  cases q with
  | single => exact encode_apart (by decide) h
  | double => exact encode_apart (by decide) h
  | backtick => exact encode_apart (by decide) h

theorem ofChar?_eq_some {c : Char} {q : Quote} : ofChar? c = some q ↔ c = q.char := by
  unfold ofChar?
  constructor
  · intro h
    repeat' split at h
    all_goals first | (cases h; assumption) | cases h
  · rintro rfl
    cases q <;> rfl

@[simp] theorem ofChar?_char (q : Quote) : ofChar? q.char = some q := ofChar?_eq_some.2 rfl

theorem char_inj {p q : Quote} (h : p.char = q.char) : p = q := by
  have := congrArg ofChar? h
  simpa using this

theorem ofMark?_mark (q : Quote) : ofMark? q.mark = some q := by cases q <;> rfl

theorem ofMark?_eq_none {b : UInt8} (h : ∀ q : Quote, b ≠ q.mark) : ofMark? b = none := by
  simp [ofMark?, h]

theorem ne_char {c : Char} (h : ofChar? c = none) (q : Quote) : c ≠ q.char := by
  intro same
  rw [ofChar?_eq_some.2 same] at h
  cases h

end Quote

theorem encode_backslash : String.utf8EncodeChar '\\' = [backslash] := rfl

theorem backslash_encode {c : Char} (h : c ≠ '\\') :
    ∀ b ∈ String.utf8EncodeChar c, b ≠ backslash :=
  encode_apart (by decide) h

/-! ## Blanking a character -/

/-- The character `c` as blanked bytes. -/
theorem encode_spaces (c : Char) :
    encode (spaces c) = (String.utf8EncodeChar c).map fun _ => space := by
  rw [spaces]
  induction String.utf8EncodeChar c with
  | nil => rfl
  | cons b bs ih => rw [List.map_cons, encode_cons, ih]; rfl

theorem encode_append (s t : List Char) : encode (s ++ t) = encode s ++ encode t :=
  List.flatMap_append

theorem blank_live {bs : List UInt8} (h : ∀ b ∈ bs, ∀ q : Quote, b ≠ q.mark) (more : List UInt8) :
    blank .live (bs ++ more) = bs ++ blank .live more := by
  induction bs with
  | nil => rfl
  | cons b bs ih =>
    obtain ⟨hb, hbs⟩ := List.forall_mem_cons.1 h
    rw [List.cons_append, blank, Quote.ofMark?_eq_none hb, List.cons_append, ← ih hbs]

theorem blank_inside {q : Quote} {bs : List UInt8} (mark : ∀ b ∈ bs, b ≠ q.mark)
    (escape : ∀ b ∈ bs, ¬ (q.escapes ∧ b = backslash)) (more : List UInt8) :
    blank (.inside q) (bs ++ more) = bs.map (fun _ => space) ++ blank (.inside q) more := by
  induction bs with
  | nil => rfl
  | cons b bs ih =>
    obtain ⟨hb, hbs⟩ := List.forall_mem_cons.1 mark
    obtain ⟨he, hes⟩ := List.forall_mem_cons.1 escape
    rw [List.map_cons, List.cons_append, List.cons_append, ← ih hbs hes]
    cases bs ++ more with
    | nil => simp [blank, hb]
    | cons c more => rw [blank, if_neg he, if_neg hb]

/-- The character behind a backslash is blanked whole, though only its first
byte is passed over. -/
theorem blank_escaped {q : Quote} (h : q.escapes) (c : Char) (more : List UInt8) :
    blank (.inside q) (backslash :: (String.utf8EncodeChar c ++ more)) =
      space :: (String.utf8EncodeChar c).map (fun _ => space) ++ blank (.inside q) more := by
  have first (b : UInt8) (bs : List UInt8) :
      blank (.inside q) (backslash :: b :: bs) = space :: space :: blank (.inside q) bs := by
    rw [blank, if_pos ⟨h, rfl⟩]
  cases Nat.lt_or_ge c.toNat 128 with
  | inl ascii =>
    rw [encode_ascii ascii, List.singleton_append, first]
    rfl
  | inr wide =>
    obtain ⟨b, bs, same, high⟩ := encode_wide wide
    have behind : ∀ x ∈ bs, 128 ≤ x.toNat := (List.forall_mem_cons.1 high).2
    rw [same, List.cons_append, first, blank_inside]
    · rfl
    · rintro x hx rfl
      have := behind _ hx
      cases q <;> revert this <;> decide
    · rintro x hx ⟨-, rfl⟩
      have := behind _ hx
      revert this
      decide

theorem blank_doubled (q : Quote) (bs : List UInt8) :
    blank (.inside q) (q.mark :: q.mark :: bs) = space :: space :: blank (.inside q) bs := by
  cases q <;> rfl

theorem blank_closing {q : Quote} {b : UInt8} (h : b ≠ q.mark) (bs : List UInt8) :
    blank (.inside q) (q.mark :: b :: bs) = q.mark :: blank .live (b :: bs) := by
  have escape : ¬ (q.escapes ∧ q.mark = backslash) := by cases q <;> decide
  simp only [blank, if_neg escape, if_neg h, if_true]

/-! ## Blanking a text -/

/-- Blanking the bytes covers the characters and nothing else. -/
theorem blank_encode (p : Place) (s : List Char) :
    blank p (encode s) = encode (cover (blanked p s) s) := by
  fun_induction blanked p s with
  | case1 p => cases p <;> rfl
  | case2 c s q hq ih =>
    obtain rfl := Quote.ofChar?_eq_some.1 hq
    rw [cover, encode_append, ← ih, encode_cons, q.encode_char, List.singleton_append, blank,
      q.ofMark?_mark]
    simp [encode, q.encode_char]
  | case3 c s hq ih =>
    rw [cover, encode_append, ← ih, encode_cons, blank_live]
    · simp [encode]
    · exact fun b hb q => Quote.mark_encode (Quote.ne_char hq q) b hb
  | case4 q c =>
    by_cases mark : c = q.char
    · simp [mark, cover, encode, q.encode_char, blank]
    by_cases escape : c = '\\'
    · subst escape
      cases q <;> rfl
    · have := blank_inside (Quote.mark_encode mark)
        (fun b hb h => backslash_encode escape b hb h.2) []
      have covered : cover [decide (c ≠ q.char)] [c] = spaces c := by simp [cover, mark]
      rw [covered, encode_spaces]
      simpa [encode, blank] using this
  | case5 q c d s h ih =>
    obtain ⟨h, rfl⟩ := h
    rw [cover, cover, encode_append, encode_append, ← ih, encode_cons, encode_backslash,
      encode_cons, List.singleton_append, blank_escaped h]
    simp [encode_spaces, encode_backslash]
  | case6 q s _ ih =>
    rw [cover, cover, encode_append, encode_append, ← ih, encode_cons, encode_cons, q.encode_char,
      List.singleton_append, List.singleton_append, blank_doubled]
    simp [encode_spaces, q.encode_char]
  | case7 q d s hd _ ih =>
    obtain ⟨b, bs, same⟩ : ∃ b bs, String.utf8EncodeChar d = b :: bs :=
      List.exists_cons_of_ne_nil (by simp [String.utf8EncodeChar_ne_nil])
    have other : b ≠ q.mark := Quote.mark_encode hd b (by simp [same])
    rw [cover, encode_append, ← ih, encode_cons, q.encode_char, List.singleton_append, encode_cons,
      same, List.cons_append, blank_closing other]
    simp [encode, q.encode_char]
  | case8 q c d s escape mark ih =>
    have kept : ∀ b ∈ String.utf8EncodeChar c, ¬ (q.escapes ∧ b = backslash) := by
      rintro b hb ⟨he, hb'⟩
      exact backslash_encode (fun hc => escape ⟨he, hc⟩) b hb hb'
    rw [cover, encode_append, ← ih, encode_cons, blank_inside (Quote.mark_encode mark) kept]
    simp [encode_spaces]

theorem stripLiterals_eq (s : List Char) : stripLiterals s = cover (blanked .live s) s := by
  rw [stripLiterals, blank_encode, Text.Utf8.decodeLossy_encode]

/-! ## Which characters are blanked -/

theorem cover_append {hs : List Bool} {s : List Char} (h : hs.length = s.length)
    (more : List Bool) (t : List Char) :
    cover (hs ++ more) (s ++ t) = cover hs s ++ cover more t := by
  induction hs generalizing s with
  | nil =>
    obtain rfl := List.length_eq_zero_iff.1 h.symm
    simp [cover]
  | cons b hs ih =>
    obtain ⟨c, s, rfl⟩ := List.exists_cons_of_length_eq_add_one h.symm
    simp only [List.cons_append, cover, ih (Nat.succ.inj h), List.append_assoc]

/-- Live SQL goes on through what is no mark. -/
theorem blanked_live {s : List Char} (h : ∀ c ∈ s, Quote.ofChar? c = none) (more : List Char) :
    blanked .live (s ++ more) = List.replicate s.length false ++ blanked .live more := by
  induction s with
  | nil => rfl
  | cons c s ih =>
    obtain ⟨hc, hs⟩ := List.forall_mem_cons.1 h
    rw [List.cons_append, blanked, hc, List.length_cons, List.replicate_succ, List.cons_append,
      ← ih hs]

theorem blanked_opening (q : Quote) (s : List Char) :
    blanked .live (q.char :: s) = false :: blanked (.inside q) s := by
  rw [blanked, q.ofChar?_char]

/-- Inside a literal everything is blanked up to the mark that closes it. -/
theorem blanked_inside (q : Quote) (s : List Char) :
    (∃ n, Token.closing q.char q.escapes s = some (n + 1) ∧
      blanked (.inside q) s = List.replicate n true ++ false :: blanked .live (s.drop (n + 1))) ∨
    (Token.closing q.char q.escapes s = none ∧
      blanked (.inside q) s = List.replicate s.length true) := by
  fun_induction Token.closing q.char q.escapes s with
  | case1 => exact .inr ⟨rfl, rfl⟩
  | case2 => exact .inl ⟨0, rfl, by simp [blanked]⟩
  | case3 c h => exact .inr ⟨rfl, by simp [blanked, h]⟩
  | case4 c d r h ih =>
    rw [blanked, if_pos h]
    obtain ⟨n, hn, same⟩ | ⟨hn, same⟩ := ih
    · exact .inl ⟨n + 2, by rw [hn]; rfl, by rw [same]; rfl⟩
    · exact .inr ⟨by rw [hn]; rfl, by rw [same]; rfl⟩
  | case5 r h ih =>
    rw [blanked, if_neg h, if_pos rfl, if_pos rfl]
    obtain ⟨n, hn, same⟩ | ⟨hn, same⟩ := ih
    · exact .inl ⟨n + 2, by rw [hn]; rfl, by rw [same]; rfl⟩
    · exact .inr ⟨by rw [hn]; rfl, by rw [same]; rfl⟩
  | case6 d r hd h =>
    rw [blanked, if_neg h, if_pos rfl, if_neg hd]
    exact .inl ⟨0, rfl, rfl⟩
  | case7 c d r h hc ih =>
    rw [blanked, if_neg h, if_neg hc]
    obtain ⟨n, hn, same⟩ | ⟨hn, same⟩ := ih
    · exact .inl ⟨n + 1, by rw [hn]; rfl, by rw [same]; rfl⟩
    · exact .inr ⟨by rw [hn]; rfl, by rw [same]; rfl⟩

end QueryGate.Sql
