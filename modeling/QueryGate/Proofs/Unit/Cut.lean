import QueryGate.Gate.Lexical
import QueryGate.Proofs.Blanking
import QueryGate.Proofs.Coverage
import QueryGate.Proofs.Unit.Name
/-!
# What a unit is cut from

A unit is a comment, a quoted text that ends with the mark that closes it, a
name that takes a mark into it, or it has no mark in it.
-/

namespace QueryGate.Sql

/-! ## Texts without marks -/

def Unmarked (s : List Char) : Prop := ∀ c ∈ s, Quote.ofChar? c = none

instance (s : List Char) : Decidable (Unmarked s) := List.decidableBAll _ s

theorem unmarked_nil : Unmarked [] := by simp [Unmarked]

theorem not_unmarked (q : Quote) (s : List Char) : ¬ Unmarked (q.char :: s) := by
  simp [Unmarked]

theorem unmarked_append {s t : List Char} : Unmarked (s ++ t) ↔ Unmarked s ∧ Unmarked t :=
  List.forall_mem_append

/-- Neither marks nor spaces. -/
def Bare (s : List Char) : Prop := ∀ c ∈ s, Quote.ofChar? c = none ∧ c ≠ ' '

instance (s : List Char) : Decidable (Bare s) := List.decidableBAll _ s

theorem Bare.unmarked {s : List Char} (h : Bare s) : Unmarked s := fun c hc => (h c hc).1

theorem Bare.spaceless {s : List Char} (h : Bare s) : ' ' ∉ s := fun space => (h _ space).2 rfl

theorem bare_nil : Bare [] := by simp [Bare]

theorem bare_append {s t : List Char} : Bare (s ++ t) ↔ Bare s ∧ Bare t := List.forall_mem_append

theorem bare_first {c : Char} (h : Quote.ofChar? c = none ∧ c ≠ ' ') (r : List Char) :
    Bare ((c :: r).take 1) := by
  simp [Bare, h]

theorem bare_of_head? {c : Char} {s : List Char} (h : Quote.ofChar? c = none ∧ c ≠ ' ')
    (hs : s.head? = some c) : Bare (s.take 1) := by
  obtain ⟨r, rfl⟩ := List.head?_eq_some_iff.1 hs
  exact bare_first h r

theorem bare_take_add {s : List Char} {m n : Nat} (hm : Bare (s.take m))
    (hn : Bare ((s.drop m).take n)) : Bare (s.take (m + n)) := by
  rw [List.take_add]
  exact bare_append.2 ⟨hm, hn⟩

/-- A class of characters that neither a mark nor the space is in. -/
def Solid (p : Char → Bool) : Prop := (∀ q : Quote, p q.char = false) ∧ p ' ' = false

theorem bare_takeWhile {p : Char → Bool} (hp : Solid p) (s : List Char) : Bare (s.takeWhile p) := by
  intro c hc
  have member : p c = true := List.all_eq_true.1 List.all_takeWhile c hc
  refine ⟨?_, ?_⟩
  · cases hq : Quote.ofChar? c with
    | none => rfl
    | some q =>
      rw [Quote.ofChar?_eq_some.1 hq, hp.1] at member
      cases member
  · rintro rfl
    rw [hp.2] at member
    cases member

theorem bare_run {p : Char → Bool} (hp : Solid p) (s : List Char) :
    Bare (s.take (s.takeWhile p).length) := by
  rw [take_takeWhile]
  exact bare_takeWhile hp s

theorem solid_isDigit : Solid Char.isDigit := ⟨by rintro (_ | _ | _) <;> rfl, rfl⟩

theorem solid_isNamePart : Solid isNamePart := ⟨by rintro (_ | _ | _) <;> rfl, rfl⟩

theorem ofChar?_of_isNameStart {c : Char} (h : isNameStart c) : Quote.ofChar? c = none := by
  cases hq : Quote.ofChar? c with
  | none => rfl
  | some q =>
    rw [Quote.ofChar?_eq_some.1 hq] at h
    cases q <;> cases h

theorem bare_initial {c : Char} (h : isNameStart c) (r : List Char) :
    Bare ((c :: r).take 1) := by
  refine bare_first ⟨ofChar?_of_isNameStart h, ?_⟩ r
  rintro rfl
  cases h

theorem unmarked_of_word {s : List Char} (h : ∀ c ∈ s, isNameStart c) : Unmarked s :=
  fun c hc => ofChar?_of_isNameStart (h c hc)

namespace Token

def isQuoted : Token → Bool
  | .text .. => true
  | .word _ none => true
  | _ => false

/-! ## Units without marks -/

/-- A unit, given with its length, that is no comment and no bits, has no mark in
it and no space behind its first character. -/
structure Plain (s : List Char) (unit : Token × Nat) : Prop where
  comment : unit.1 ≠ .comment
  bits : ∀ content, unit.1 ≠ .text .bits content
  unmarked : Unmarked (s.take unit.2)
  spaceless : ' ' ∉ (s.take unit.2).tail

theorem plain_bare {s : List Char} {token : Token} {n : Nat} (comment : token ≠ .comment)
    (bits : ∀ content, token ≠ .text .bits content) (h : Bare (s.take n)) : Plain s (token, n) :=
  ⟨comment, bits, h.unmarked, fun space => h.spaceless (List.mem_of_mem_tail space)⟩

/-- One character alone. -/
theorem plain_one {c : Char} {r : List Char} {token : Token} (comment : token ≠ .comment)
    (bits : ∀ content, token ≠ .text .bits content) (h : Quote.ofChar? c = none) :
    Plain (c :: r) (token, 1) :=
  ⟨comment, bits, by simp [Unmarked, h], by simp⟩

theorem plain_name {s : List Char} {taken : Nat} (h : Bare (s.take taken)) :
    Plain s (name s taken) :=
  plain_bare nofun nofun (bare_take_add h (bare_run solid_isNamePart _))

theorem bare_digits (s : List Char) : Bare (s.take (digitsLength s)) :=
  bare_run solid_isDigit s

/-- A sign, if there is one. -/
theorem bare_sign (s : List Char) :
    Bare (s.take (match s with
      | c :: _ => if c = '+' || c = '-' then 1 else 0
      | [] => 0)) := by
  cases s with
  | nil => exact bare_nil
  | cons c r =>
    dsimp only
    split
    · next sign =>
      obtain rfl | rfl : c = '+' ∨ c = '-' := by simpa using sign
      · exact bare_first (by decide) r
      · exact bare_first (by decide) r
    · exact bare_nil

theorem bare_exponent (s : List Char) : Bare (s.take (exponentLength s)) := by
  fun_cases exponentLength s with
  | case1 | case2 | case4 => exact bare_nil
  | case3 e r letter sign digits some =>
    have first : Bare ((e :: r).take 1) := by
      obtain rfl | rfl : e = 'e' ∨ e = 'E' := by simpa using letter
      · exact bare_first (by decide) r
      · exact bare_first (by decide) r
    refine bare_take_add (bare_take_add first (bare_sign r)) ?_
    rw [Nat.add_comm 1, List.drop_succ_cons]
    exact bare_digits _

theorem plain_digits {s : List Char} {n : Nat} (afterPeriod : Bool) (t : List Char)
    (h : Bare (s.take n)) : Plain s (digitsToken afterPeriod t, n) := by
  cases afterPeriod
  · exact plain_bare nofun nofun h
  · exact plain_bare nofun nofun h

theorem plain_mantissa {s : List Char} {n : Nat} (afterPeriod : Bool) (h : Bare (s.take n)) :
    Plain s (mantissaTail afterPeriod s n) := by
  fun_cases mantissaTail afterPeriod s n with
  | case1 exponent _ long =>
    have upToExponent := bare_take_add h (bare_exponent (s.drop n))
    refine plain_digits _ _ (bare_take_add upToExponent ?_)
    dsimp only [long]
    split
    · next letter =>
      rw [Bool.and_eq_true, decide_eq_true_iff] at letter
      exact bare_of_head? (by decide) letter.2
    · exact bare_nil
  | case2 => exact plain_digits _ _ h
  | case3 => exact plain_bare nofun nofun h
  | case4 => exact plain_bare nofun nofun (bare_take_add h (bare_run solid_isNamePart _))

theorem plain_numeral {s : List Char} (h : Bare (s.take 1)) (afterWord afterPeriod : Bool) :
    Plain s (numeral afterWord afterPeriod s) := by
  fun_cases numeral afterWord afterPeriod s with
  | case1 whole rest zero hex =>
    obtain ⟨one, -, x⟩ := zero
    have first : Bare (s.take (whole + 1)) :=
      bare_take_add (bare_digits s) (bare_of_head? (by decide) x)
    rw [one] at first
    refine plain_bare nofun nofun (bare_take_add first ?_)
    have behind : rest.drop 1 = s.drop 2 := by rw [List.drop_drop, one]
    rw [← behind]
    exact bare_run ⟨by rintro (_ | _ | _) <;> rfl, rfl⟩ _
  | case2 => exact plain_bare nofun nofun h
  | case3 whole rest zero point fraction =>
    have first : Bare (s.take (whole + point)) := by
      refine bare_take_add (bare_digits s) ?_
      dsimp only [point]
      split
      · next period => exact bare_of_head? (by decide) period
      · exact bare_nil
    exact plain_mantissa _ (bare_take_add first (bare_digits _))

theorem bare_symbols : ∀ t ∈ longSymbols, Bare t.toList := by decide

theorem plain_symbol {c : Char} (h : Quote.ofChar? c = none) (r : List Char) :
    Plain (c :: r) (symbolAt c (c :: r)) := by
  generalize hs : c :: r = s
  unfold symbolAt
  cases ht : longSymbols.find? fun t => t.toList.isPrefixOf s with
  | none => exact hs ▸ plain_one nofun nofun h
  | some t =>
    have front : t.toList <+: s := by simpa using List.find?_some ht
    have same : s.take t.length = t.toList := by
      rw [← String.length_toList]
      exact (List.prefix_iff_eq_take.1 front).symm
    refine plain_bare nofun nofun ?_
    rw [same]
    exact bare_symbols t (List.mem_of_find?_eq_some ht)

/-! ## The unit at the front -/

/-- What a comment begins with. -/
def commentMarks : List String := ["--", "/*", "#"]

theorem unmarked_commentMarks : ∀ mark ∈ commentMarks, Unmarked mark.toList := by decide

/-- What `scan` finds between live SQL and the text behind it. -/
inductive Cut : Token → List Char → List Char → Prop where
  | plain {token : Token} {source : List Char} (behind : List Char) (comment : token ≠ .comment)
      (bits : ∀ content, token ≠ .text .bits content) (unmarked : Unmarked source)
      (spaceless : ' ' ∉ source.tail) : Cut token source behind
  | comment {source : List Char} (behind : List Char) (mark : String)
      (known : mark ∈ commentMarks) (begins : mark.toList <+: source) :
      Cut .comment source behind
  | quoted {token : Token} {inner behind : List Char} {q : Quote} (lead : List Char)
      (kind : token.isQuoted) (bits : ∀ content, token ≠ .text .bits content)
      (word : ∀ c ∈ lead, isNameStart c)
      (closes : closing q.char q.escapes (inner ++ behind) = some inner.length) :
      Cut token (lead ++ q.char :: inner) behind
  | bits {content : List Char} {letter : Char} {inner behind : List Char} {q : Quote}
      (initial : isNameStart letter) (escapes : q.escapes)
      (closes : closing q.char false (inner ++ behind) = some inner.length) :
      Cut (.text .bits content) (letter :: q.char :: inner) behind
  | marked {text : List Char} {key : String} (q : Quote) {r : List Char} (behind : List Char)
      (bare : Bare r) : Cut (.word text (some key)) ('@' :: '@' :: q.char :: r) behind

namespace Cut

theorem bits_inv {content source behind : List Char} (h : Cut (.text .bits content) source behind) :
    ∃ letter q inner, source = letter :: Quote.char q :: inner ∧ Quote.ofChar? letter = none ∧
      q.escapes ∧ closing q.char false (inner ++ behind) = some inner.length := by
  cases h with
  | plain _ _ bits => exact absurd rfl (bits content)
  | quoted _ _ bits => exact absurd rfl (bits content)
  | bits initial escapes closes =>
    exact ⟨_, _, _, rfl, ofChar?_of_isNameStart initial, escapes, closes⟩

theorem name_inv {text : List Char} {key : String} {source behind : List Char}
    (h : Cut (.word text (some key)) source behind) :
    Unmarked source ∨ ∃ q r, source = '@' :: '@' :: Quote.char q :: r ∧ Unmarked r := by
  cases h with
  | plain _ _ _ unmarked _ => exact .inl unmarked
  | quoted _ kind => cases kind
  | marked q _ bare => exact .inr ⟨q, _, rfl, bare.unmarked⟩

/-- A unit with a mark in it that is no name and no comment: a word, the opening
mark and what the same mark closes. -/
theorem quoted_inv {token : Token} {source behind : List Char} (h : Cut token source behind)
    (kind : token.isQuoted) (marked : ¬ Unmarked source) :
    ∃ lead q inner, source = lead ++ Quote.char q :: inner ∧ (∀ c ∈ lead, isNameStart c) ∧
      inner.getLast? = some q.char := by
  have last {mark : Char} {escapes : Bool} {inner : List Char}
      (closes : closing mark escapes (inner ++ behind) = some inner.length) :
      inner.getLast? = some mark := by
    simpa using closing_last closes
  cases h with
  | plain _ _ _ unmarked _ => exact absurd unmarked marked
  | comment => cases kind
  | quoted _ _ _ word closes => exact ⟨_, _, _, rfl, word, last closes⟩
  | @bits _ letter _ _ _ initial _ closes =>
    exact ⟨[letter], _, _, rfl, by simpa using initial, last closes⟩
  | marked => cases kind

/-- A unit that begins with a mark goes up to what closes it. -/
theorem mark_inv {token : Token} {q : Quote} {s behind : List Char}
    (h : Cut token (q.char :: s) behind) (live : token ≠ .comment) :
    token.isQuoted ∧ closing q.char q.escapes (s ++ behind) = some s.length := by
  generalize hs : q.char :: s = source at h
  cases h with
  | plain _ _ _ unmarked _ => exact absurd (hs ▸ unmarked) (not_unmarked q s)
  | comment => exact absurd rfl live
  | @quoted _ inner _ q' lead kind _ word closes =>
    cases lead with
    | cons c lead =>
      obtain ⟨rfl, -⟩ := List.cons.inj hs
      exact absurd (unmarked_of_word word) (not_unmarked q lead)
    | nil =>
      obtain ⟨mark, rfl⟩ := List.cons.inj hs
      obtain rfl := Quote.char_inj mark
      exact ⟨kind, closes⟩
  | bits initial =>
    obtain ⟨rfl, -⟩ := List.cons.inj hs
    simpa using ofChar?_of_isNameStart initial
  | marked =>
    have sign := (List.cons.inj hs).1
    cases q <;> cases sign

end Cut

theorem cut_plain {c : Char} {rest : List Char} {token : Token} {n : Nat}
    (hc : Quote.ofChar? c = none) (h : Plain (c :: rest) (token, n)) :
    Cut token (c :: rest.take (n - 1)) (rest.drop (n - 1)) := by
  cases n with
  | zero => exact .plain _ h.comment h.bits (by simp [Unmarked, hc]) (by simp)
  | succ n => exact .plain _ h.comment h.bits h.unmarked h.spaceless

/-- A text behind an opening mark, cut behind the closing one. -/
theorem cut_closed {mark : Char} {escapes : Bool} {rest content : List Char} {m : Nat}
    (h : closed mark escapes rest = some (content, m)) :
    ∃ inner behind, rest = inner ++ behind ∧ m = inner.length ∧
      closing mark escapes (inner ++ behind) = some inner.length := by
  have closes := closing_of_closed h
  have length : (rest.take m).length = m := by simp [closing_le closes]
  refine ⟨rest.take m, rest.drop m, ?_, length.symm, ?_⟩
  · rw [List.take_append_drop]
  · rw [List.take_append_drop, length, closes]

theorem cut_quoted {form : TextForm} {mark : Char} {escapes : Bool} {k : Nat} {rest : List Char}
    {token : Token} {n : Nat} (h : quoted form mark escapes k rest = .ok (token, n)) :
    ∃ inner behind content, rest = inner ++ behind ∧ n = k + inner.length ∧
      token = .text form content ∧
      closing mark escapes (inner ++ behind) = some inner.length := by
  unfold quoted at h
  split at h
  · next content m hm =>
    obtain ⟨inner, behind, rfl, rfl, closes⟩ := cut_closed hm
    cases h
    exact ⟨inner, behind, content, rfl, rfl, rfl, closes⟩
  · cases h

theorem cut_introduced {form : TextForm} {marks : List Char} {escapes : Bool} {c : Char}
    {rest : List Char} {token : Token} {n : Nat} (hc : isNameStart c)
    (hform : form = .bits ∧ escapes = false ∨ form ≠ .bits ∧ escapes = true)
    (hmarks : ∀ m ∈ marks, ∃ q : Quote, m = q.char ∧ q.escapes)
    (h : introduced form marks escapes (c :: rest) = .ok (token, n)) :
    Cut token (c :: rest.take (n - 1)) (rest.drop (n - 1)) := by
  have other : Quote.ofChar? c = none := ofChar?_of_isNameStart hc
  have named : Plain (c :: rest) (name (c :: rest) 1) := plain_name (bare_initial hc rest)
  unfold introduced at h
  split at h
  · next first m r same =>
    obtain ⟨rfl, rfl⟩ := List.cons.inj same
    split at h
    · next hm =>
      obtain ⟨q, rfl, hq⟩ := hmarks m (by simpa using hm)
      obtain ⟨inner, behind, content, rfl, rfl, rfl, closes⟩ := cut_quoted h
      -- The letter is one character, the opening mark another.
      rw [show 2 + inner.length - 1 = inner.length + 1 by omega, List.take_succ_cons,
        List.drop_succ_cons, List.take_left, List.drop_left]
      obtain ⟨rfl, rfl⟩ | ⟨noBits, rfl⟩ := hform
      · exact .bits hc hq closes
      · have word : ∀ d ∈ [c], isNameStart d := by simpa using hc
        rw [← hq] at closes
        refine .quoted [c] rfl ?_ word closes
        rintro _ same
        cases same
        exact noBits rfl
    · cases h
      exact cut_plain other named
  · cases h
    exact cut_plain other named

theorem isNameStart_of_letter {c small capital : Char} (h : c = small || c = capital)
    (hs : isNameStart small) (hc : isNameStart capital) : isNameStart c := by
  obtain rfl | rfl : c = small ∨ c = capital := by simpa using h
  · exact hs
  · exact hc

theorem single_mark : ∀ m ∈ ['\''], ∃ q : Quote, m = q.char ∧ q.escapes := by
  simpa using ⟨.single, rfl, rfl⟩

theorem text_marks : ∀ m ∈ ['\'', '"'], ∃ q : Quote, m = q.char ∧ q.escapes := by
  simpa using ⟨⟨.single, rfl, rfl⟩, ⟨.double, rfl, rfl⟩⟩

/-- The sign alone, or a name that may take a mark into it. -/
theorem cut_at {rest : List Char} {token : Token} {n : Nat}
    (h : atSign ('@' :: rest) = (token, n)) :
    Cut token ('@' :: rest.take (n - 1)) (rest.drop (n - 1)) := by
  have first : Bare (('@' :: rest).take 1) := bare_first (by decide) rest
  revert h
  have second {c : Char} {r : List Char} (hr : rest = c :: r)
      (hc : Quote.ofChar? c = none ∧ c ≠ ' ') : Bare (('@' :: rest).take 2) := by
    subst hr
    exact bare_take_add (m := 1) first (bare_first hc r)
  fun_cases atSign ('@' :: rest) with
  | case1 =>
    rintro ⟨⟩
    exact cut_plain rfl (plain_one nofun nofun rfl)
  | case2 r hr | case3 r hr | case4 _ _ hr =>
    rintro ⟨⟩
    exact cut_plain rfl (plain_bare nofun nofun (second hr (by decide)))
  | case5 r _ _ hr =>
    rintro ⟨⟩
    exact cut_plain rfl (plain_bare nofun nofun (second hr (by decide)))
  | case6 c r gap _ _ hr =>
    intro h
    obtain rfl : rest = '@' :: c :: r := hr
    cases hq : Quote.ofChar? c with
    | none =>
      have third : Bare (('@' :: '@' :: c :: r).take 3) := by
        simp [Bare, hq, gap]
        decide
      exact cut_plain rfl (h ▸ plain_name third)
    | some q =>
      obtain rfl := Quote.ofChar?_eq_some.1 hq
      cases h
      have length :
          3 + (r.takeWhile isNamePart).length - 1 = (r.takeWhile isNamePart).length + 2 := by
        omega
      have source : ('@' :: q.char :: r).take (3 + (r.takeWhile isNamePart).length - 1) =
          '@' :: q.char :: r.takeWhile isNamePart := by
        rw [length, List.take_succ_cons, List.take_succ_cons, take_takeWhile]
      show Cut (.word _ (some _))
        ('@' :: ('@' :: q.char :: r).take (3 + (r.takeWhile isNamePart).length - 1)) _
      rw [source]
      exact .marked q _ (bare_takeWhile solid_isNamePart r)
  | case7 c r hr =>
    rintro ⟨⟩
    exact cut_plain rfl (plain_one nofun nofun rfl)
  | case8 c r hr _ _ _ other =>
    intro h
    have bare : Quote.ofChar? c = none ∧ c ≠ ' ' := by
      simp at other
      simp [Quote.ofChar?, Quote.char, other]
    exact cut_plain rfl (h ▸ plain_name (second hr bare))

theorem take_behind (s t : List Char) : (s ++ t).take (1 + s.length - 1) = s := by
  rw [Nat.add_sub_cancel_left, List.take_left]

theorem drop_behind (s t : List Char) : (s ++ t).drop (1 + s.length - 1) = t := by
  rw [Nat.add_sub_cancel_left, List.drop_left]

/-- A text between marks, with nothing before it. -/
theorem cut_text (form : TextForm) {q : Quote} {rest : List Char} {token : Token} {n : Nat}
    (hform : form ≠ .bits) (h : quoted form q.char q.escapes 1 rest = .ok (token, n)) :
    Cut token (q.char :: rest.take (n - 1)) (rest.drop (n - 1)) := by
  obtain ⟨inner, behind, content, rfl, rfl, rfl, closes⟩ := cut_quoted h
  rw [take_behind, drop_behind]
  refine .quoted [] rfl ?_ nofun closes
  rintro _ same
  cases same
  exact hform rfl

/-- A name in backticks. -/
theorem closed_of_scan {before : Option Token} {rest : List Char} {token : Token} {n : Nat}
    (h : scan before Quote.backtick.char rest = .ok (token, n)) :
    ∃ content m, closed Quote.backtick.char false rest = some (content, m) ∧
      token = .word content none ∧ n = 1 + m := by
  cases hc : closed Quote.backtick.char false rest with
  | none =>
    have unclosed : scan before Quote.backtick.char rest = .error .unclosed := by
      simp only [Quote.char] at hc ⊢
      simp [scan, hc]
    rw [unclosed] at h
    cases h
  | some closing =>
    obtain ⟨content, m⟩ := closing
    have name : scan before Quote.backtick.char rest = .ok (.word content none, 1 + m) := by
      simp only [Quote.char] at hc ⊢
      simp [scan, hc]
    rw [name] at h
    cases h
    exact ⟨content, m, rfl, rfl, rfl⟩

theorem cut_mark {before : Option Token} {q : Quote} {rest : List Char} {token : Token} {n : Nat}
    (h : scan before q.char rest = .ok (token, n)) :
    Cut token (q.char :: rest.take (n - 1)) (rest.drop (n - 1)) := by
  cases q with
  | single => exact cut_text .single (by decide) h
  | double => exact cut_text .double (by decide) h
  | backtick =>
    obtain ⟨content, m, hm, rfl, rfl⟩ := closed_of_scan h
    obtain ⟨inner, behind, rfl, rfl, closes⟩ := cut_closed hm
    rw [take_behind, drop_behind]
    exact .quoted [] rfl nofun nofun closes

/-- The unit at the front of a text, with what is left of the text. -/
theorem cut_of_scan {before : Option Token} {c : Char} {rest : List Char} {token : Token} {n : Nat}
    (h : scan before c rest = .ok (token, n)) :
    Cut token (c :: rest.take (n - 1)) (rest.drop (n - 1)) := by
  cases hq : Quote.ofChar? c with
  | some q =>
    obtain rfl := Quote.ofChar?_eq_some.1 hq
    exact cut_mark h
  | none =>
    revert h
    -- One case for each branch of `scan`. A letter may introduce a literal, two signs a
    -- comment and an at sign a name with a mark in it; all other units have no mark.
    fun_cases scan before c rest with
    | case1 | case10 | case20 =>
      rintro ⟨⟩
      exact cut_plain hq (plain_one nofun nofun hq)
    | case2 _ feed =>
      rintro ⟨⟩
      subst feed
      refine cut_plain hq ?_
      split
      · next feed =>
        exact plain_bare nofun nofun
          (bare_take_add (m := 1) (bare_first (by decide) rest) (bare_of_head? (by decide) feed))
      · exact plain_one nofun nofun hq
    | case3 _ _ _ letter =>
      exact cut_introduced (isNameStart_of_letter letter rfl rfl) (.inl ⟨rfl, rfl⟩) text_marks
    | case4 _ _ _ _ letter | case5 _ _ _ _ _ letter =>
      exact cut_introduced (isNameStart_of_letter letter rfl rfl) (.inr ⟨by decide, rfl⟩)
        single_mark
    | case6 _ _ _ _ _ mark | case7 _ _ _ _ _ _ mark =>
      subst mark
      cases hq
    | case8 _ _ _ _ _ _ _ mark =>
      subst mark
      cases hq
    | case9 | case11 | case16 => exact nofun
    | case12 _ _ solid =>
      intro h
      have first : Bare ((c :: rest).take 1) := bare_first ⟨hq, by simp_all⟩ rest
      exact cut_plain hq ((Except.ok.inj h) ▸ plain_numeral first _ _)
    | case13 _ _ _ _ _ _ _ _ _ line =>
      rintro ⟨⟩
      obtain ⟨rfl, second, -⟩ := line
      obtain ⟨r, rfl⟩ := List.head?_eq_some_iff.1 second
      refine .comment _ "--" (by decide) ?_
      rw [lineLength, if_neg (by decide), Nat.add_sub_cancel_left, List.take_succ_cons]
      exact ⟨_, rfl⟩
    | case14 _ _ _ _ _ _ _ _ _ _ hash =>
      rintro ⟨⟩
      subst hash
      exact .comment _ "#" (by decide) ⟨_, rfl⟩
    | case15 _ _ _ _ _ _ _ _ _ _ _ block m =>
      rintro ⟨⟩
      obtain ⟨rfl, second⟩ := block
      obtain ⟨r, rfl⟩ := List.head?_eq_some_iff.1 second
      refine .comment _ "/*" (by decide) ?_
      rw [show 2 + m - 1 = m + 1 by omega, List.take_succ_cons]
      exact ⟨_, rfl⟩
    | case17 _ _ _ _ _ _ _ _ _ _ _ _ _ sign =>
      intro h
      subst sign
      exact cut_at (Except.ok.inj h)
    | case18 solid =>
      rintro ⟨⟩
      have first : Bare ((c :: rest).take 1) := bare_first ⟨hq, by simp_all⟩ rest
      have digits := bare_run solid_isDigit rest
      exact cut_plain hq (plain_bare nofun nofun (bare_take_add (m := 1) first digits))
    | case19 _ _ _ _ _ _ _ _ _ _ _ _ _ _ _ start =>
      intro h
      exact cut_plain hq ((Except.ok.inj h) ▸ plain_name (bare_initial start rest))
    | case21 =>
      intro h
      exact cut_plain hq ((Except.ok.inj h) ▸ plain_symbol hq rest)

theorem escapable (q : Quote) : q.char ≠ '\\' := by cases q <;> decide

/-- Text behind a unit changes nothing, if it does not begin with a mark. -/
theorem Cut.extend {token : Token} {source behind more : List Char} (h : Cut token source behind)
    (hm : ∀ q : Quote, more.head? ≠ some q.char) : Cut token source (behind ++ more) := by
  have still {q : Quote} {escapes : Bool} {inner behind : List Char}
      (closes : closing q.char escapes (inner ++ behind) = some inner.length) :
      closing q.char escapes (inner ++ (behind ++ more)) = some inner.length := by
    rw [← List.append_assoc]
    exact closing_append (escapable q) closes (.inr (hm q))
  cases h with
  | plain _ comment bits unmarked spaceless => exact .plain _ comment bits unmarked spaceless
  | comment _ mark known begins => exact .comment _ mark known begins
  | quoted lead kind bits word closes => exact .quoted lead kind bits word (still closes)
  | bits initial escapes closes => exact .bits initial escapes (still closes)
  | marked q _ bare => exact .marked q _ bare

end Token

/-! ## The units of a text -/

/-- Units in a row, each cut from the text that the later ones and `more` are. -/
inductive Units (more : List Char) : List Lexeme → Prop where
  | nil : Units more []
  | cons {l : Lexeme} {ls : List Lexeme}
      (filled : l.source ≠ []) (cut : Token.Cut l.token l.source (ls.flatMap Lexeme.source ++ more))
      (rest : Units more ls) : Units more (l :: ls)

theorem units_of_lexemesAfter {before : Option Token} {s more : List Char} {ls : List Lexeme}
    (h : lexemesAfter before s = .ok ls) (hm : ∀ q : Quote, more.head? ≠ some q.char) :
    Units more ls := by
  fun_induction lexemesAfter before s generalizing ls with
  | case1 => cases h; exact .nil
  | case2 => cases h
  | case3 => cases h
  | case4 before c rest token n hs ls hl ih =>
    cases h
    refine .cons (List.cons_ne_nil _ _) ?_ (ih hl)
    rw [source_lexemesAfter hl]
    exact (Token.cut_of_scan hs).extend hm

end QueryGate.Sql
