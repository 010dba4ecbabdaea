import QueryGate.Proofs.Digits
import QueryGate.Proofs.Ending.Query
import QueryGate.Proofs.Unit.Tail
import QueryGate.Vector.Search
/-!
# The ending as text

The order and the limit that a search ends with are a tail, so what stands in
front of them leaves their units whole or takes all of them into a comment.
-/

namespace QueryGate.Sql

open Number (digitsOf isDigit_of_mem_digitsOf digitsOf_ne_nil)

namespace Token

theorem digitsLength_of_all {s : List Char} (h : ∀ c ∈ s, c.isDigit) :
    digitsLength s = s.length := by
  have all : (s ++ []).takeWhile Char.isDigit = s ++ [] := List.takeWhile_append_of_pos h
  rw [List.append_nil] at all
  rw [digitsLength, all]

/-- Digits alone are a number. -/
theorem numeral_of_digits {s : List Char} (hs : s ≠ []) (h : ∀ c ∈ s, c.isDigit)
    (afterWord afterPeriod : Bool) :
    numeral afterWord afterPeriod s = (.number s, s.length) := by
  have length : s.length ≠ 0 := mt List.length_eq_zero_iff.1 hs
  have none : digitsLength [] = 0 := rfl
  have mantissa : mantissaTail afterPeriod s s.length = (.number s, s.length) := by
    simp [mantissaTail, exponentLength]
  simp [numeral, digitsLength_of_all h, none, hs, mantissa]

theorem scan_digit {c : Char} (h : c.isDigit) (before : Option Token) (rest : List Char) :
    ∃ afterWord afterPeriod,
      scan before c rest = .ok (numeral afterWord afterPeriod (c :: rest)) := by
  have ne : ∀ d : Char, d.isDigit = false → c ≠ d := by
    rintro d hd rfl
    rw [hd] at h
    cases h
  simp only [scan, ne ' ' rfl, ne '\t' rfl, ne '\n' rfl, ne '\r' rfl, ne 'b' rfl, ne 'B' rfl,
    ne 'n' rfl, ne 'N' rfl, ne 'x' rfl, ne 'X' rfl, ne '\'' rfl, ne '"' rfl, ne '\x60' rfl,
    ne '.' rfl, h, if_false, false_and]
  exact ⟨_, _, rfl⟩

end Token

theorem tokens_digits {s : List Char} (hs : s ≠ []) (hd : ∀ c ∈ s, c.isDigit)
    {before : Option Token} {ls : List Lexeme} (h : lexemesAfter before s = .ok ls) :
    tokens ls = [.number s] := by
  cases s with
  | nil => exact absurd rfl hs
  | cons c s =>
    obtain ⟨_, _, scan⟩ := Token.scan_digit (hd c (by simp)) before s
    rw [lexemesAfter, scan, Token.numeral_of_digits hs hd] at h
    dsimp only at h
    rw [List.length_cons, Nat.add_sub_cancel, List.drop_length, lexemesAfter] at h
    cases h
    rfl

theorem lexemesAfter_space {before : Option Token} {s : List Char} {ls : List Lexeme}
    (h : lexemesAfter before (' ' :: s) = .ok ls) :
    ∃ more, tokens ls = tokens more ∧ lexemesAfter (some .blank) s = .ok more := by
  cases ls with
  | nil => cases source_lexemesAfter h
  | cons l more =>
    obtain ⟨n, hscan, -, hmore⟩ := lexemesAfter_cons.1 h
    have blank : Token.scan before ' ' s = .ok (.blank, 1) := rfl
    rw [blank] at hscan
    obtain ⟨token, rfl⟩ := Prod.mk.inj (Except.ok.inj hscan)
    rw [← token] at hmore
    exact ⟨more, by rw [tokens, ← token], hmore⟩

/-- A word between spaces is a unit. -/
theorem tokens_word {c : Char} {word : List Char}
    (scan : ∀ before rest, Token.scan before c (word ++ ' ' :: rest) =
      .ok (.ofName (c :: word), word.length + 1))
    {before : Option Token} {s : List Char} {ls : List Lexeme}
    (h : lexemesAfter before (' ' :: c :: (word ++ ' ' :: s)) = .ok ls) :
    ∃ last more, tokens ls = .ofName (c :: word) :: tokens more ∧
      lexemesAfter last (' ' :: s) = .ok more := by
  obtain ⟨units, same, h⟩ := lexemesAfter_space h
  cases units with
  | nil => cases source_lexemesAfter h
  | cons l more =>
    obtain ⟨n, hscan, -, hmore⟩ := lexemesAfter_cons.1 h
    rw [scan] at hscan
    obtain ⟨token, rfl⟩ := Prod.mk.inj (Except.ok.inj hscan)
    rw [Nat.add_sub_cancel, List.drop_left] at hmore
    exact ⟨_, more, by rw [same, tokens, ← token]; rfl, hmore⟩

theorem tokens_append (front back : List Lexeme) :
    ∃ lead, tokens (front ++ back) = lead ++ tokens back := by
  induction front with
  | nil => exact ⟨[], rfl⟩
  | cons l front ih =>
    obtain ⟨lead, same⟩ := ih
    rw [List.cons_append, tokens, same]
    split
    · exact ⟨lead, rfl⟩
    · exact ⟨lead, rfl⟩
    · exact ⟨_ :: lead, rfl⟩
    · exact ⟨_ :: lead, rfl⟩

theorem tokens_ordering {before : Option Token} {k : Nat} {ls : List Lexeme}
    (h : lexemesAfter before (Vector.ordering k) = .ok ls) : tokens ls = ending (digitsOf k) := by
  have words : Vector.ordering k = ' ' :: 'O' :: ("RDER".toList ++ ' ' :: 'B' :: ("Y".toList ++
      ' ' :: '_' :: ("distance".toList ++ ' ' :: 'A' :: ("SC".toList ++ ' ' :: 'L' ::
        ("IMIT".toList ++ ' ' :: digitsOf k))))) := rfl
  rw [words] at h
  obtain ⟨_, _, order, h⟩ := tokens_word (fun _ _ => rfl) h
  obtain ⟨_, _, by', h⟩ := tokens_word (fun _ _ => rfl) h
  obtain ⟨_, _, column, h⟩ := tokens_word (fun _ _ => rfl) h
  obtain ⟨_, _, direction, h⟩ := tokens_word (fun _ _ => rfl) h
  obtain ⟨_, _, limit, h⟩ := tokens_word (fun _ _ => rfl) h
  obtain ⟨_, same, h⟩ := lexemesAfter_space h
  rw [order, by', column, direction, limit, same,
    tokens_digits (digitsOf_ne_nil k) (fun c => isDigit_of_mem_digitsOf) h]
  rfl

theorem mem_ordering {k : Nat} {c : Char} (h : c ∈ Vector.ordering k) :
    c ∈ " ORDER BY _distance ASC LIMIT ".toList ∨ c.isDigit := by
  have same : Vector.ordering k = " ORDER BY _distance ASC LIMIT ".toList ++ digitsOf k := rfl
  rw [same, List.mem_append] at h
  exact h.imp_right isDigit_of_mem_digitsOf

theorem tail_ordering (k : Nat) : Tail (Vector.ordering k) := by
  have known {p : Char → Prop} [DecidablePred p]
      (hp : " ORDER BY _distance ASC LIMIT ".toList.all p) (hd : ∀ c : Char, c.isDigit → p c) :
      ∀ c ∈ Vector.ordering k, p c := fun c hc =>
    (mem_ordering hc).elim (fun word => by simpa using List.all_eq_true.1 hp c word) (hd c)
  refine ⟨rfl, known (by decide) fun c hc => ?_, fun line => ?_, fun slash => ?_⟩
  · cases hq : Quote.ofChar? c with
    | none => rfl
    | some q =>
      obtain rfl := Quote.ofChar?_eq_some.1 hq
      cases q <;> cases hc
  · obtain known | digit := mem_ordering line
    · revert known; decide
    · cases digit
  · obtain known | digit := mem_ordering slash
    · revert known; decide
    · cases digit

/-- The units of a text that an ordering ends: theirs are the last, unless a
comment takes them. -/
theorem ending_of_lexemes {front : List Char} {k : Nat} {ls : List Lexeme}
    (h : lexemes (front ++ Vector.ordering k) = .ok ls) :
    (∃ l, ls.getLast? = some l ∧ l.token = .comment) ∨ ending (digitsOf k) <:+ tokens ls := by
  obtain comment | ⟨own, back, last, rfl, hback⟩ := lexemes_tail (tail_ordering k) h
  · exact .inl comment
  · obtain ⟨lead, same⟩ := tokens_append own back
    rw [same, tokens_ordering hback]
    exact .inr (List.suffix_append _ _)

end QueryGate.Sql
