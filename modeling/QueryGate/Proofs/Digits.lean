import QueryGate.Number.Read
import QueryGate.Number.Text
/-!
# Decimal digits

What is read from digits is the number that they write, and a number is written
in one way but for zeros in front of it and a plus sign.
-/

namespace QueryGate.Number

theorem isDigit_of_mem_digitsOf {k : Nat} {c : Char} (h : c ∈ digitsOf k) : c.isDigit :=
  Nat.isDigit_of_mem_toDigits (by decide) (by decide) h

theorem not_mem_digitsOf {c : Char} (h : c.isDigit = false) (k : Nat) : c ∉ digitsOf k := fun hc => by
  rw [isDigit_of_mem_digitsOf hc] at h
  cases h

theorem digitsOf_ne_nil (k : Nat) : digitsOf k ≠ [] := Nat.toDigits_ne_nil

/-- The value of digits that stand behind a number. -/
def valueBehind (n : Nat) (s : List Char) : Nat := s.foldl (fun n c => 10 * n + digitValue c) n

theorem valueOf_cons (c : Char) (s : List Char) : valueOf (c :: s) = valueBehind (digitValue c) s := by
  simp [valueOf, valueBehind]

theorem valueOf_digitsOf (n : Nat) : valueOf (digitsOf n) = n :=
  Nat.ofDigitChars_toDigits (by decide) (by decide)

theorem valueOf_zeros (k : Nat) (s : List Char) : valueOf (zeros k ++ s) = valueOf s := by
  induction k with
  | zero => rfl
  | succ k ih => exact ih

theorem digit_bounds {c : Char} (h : c.isDigit) : 48 ≤ c.toNat ∧ c.toNat ≤ 57 :=
  Char.isDigit_iff_toNat.1 h

theorem digitValue_lt {c : Char} (h : c.isDigit) : digitValue c < 10 := by
  have bounds := digit_bounds h
  change c.toNat - 48 < 10
  omega

theorem digitsOf_digitValue {c : Char} (h : c.isDigit) : digitsOf (digitValue c) = [c] := by
  have small := digitValue_lt h
  have bounds := digit_bounds h
  have back : Nat.digitChar (digitValue c) = c := by
    apply Char.toNat_inj.1
    rw [Nat.toNat_digitChar_of_lt_ten small]
    change 48 + (c.toNat - 48) = c.toNat
    omega
  rw [digitsOf, Nat.toDigits_of_lt_base small, back]

/-- Digits behind those of a number that is not zero are its last ones. -/
theorem digitsOf_valueBehind {n : Nat} (hn : 0 < n) {s : List Char} (h : ∀ c ∈ s, c.isDigit) :
    digitsOf n ++ s = digitsOf (valueBehind n s) := by
  induction s generalizing n with
  | nil => exact List.append_nil _
  | cons c s ih =>
    obtain ⟨first, others⟩ := List.forall_mem_cons.1 h
    have one : digitsOf n ++ [c] = digitsOf (10 * n + digitValue c) := by
      rw [← digitsOf_digitValue first]
      exact Nat.toDigits_append_toDigits (by decide) hn (digitValue_lt first)
    rw [List.append_cons, one, ih (by omega) others]
    rfl

theorem exists_zeros {s : List Char} (some : s ≠ []) (h : ∀ c ∈ s, c.isDigit) :
    ∃ k, s = zeros k ++ digitsOf (valueOf s) := by
  induction s with
  | nil => exact absurd rfl some
  | cons c s ih =>
    obtain ⟨first, others⟩ := List.forall_mem_cons.1 h
    have whole : digitsOf (digitValue c) ++ s = c :: s := by rw [digitsOf_digitValue first]; rfl
    by_cases zero : digitValue c = 0
    · by_cases last : s = []
      · subst last
        exact ⟨0, by rw [valueOf_cons]; exact (digitsOf_digitValue first).symm⟩
      · obtain ⟨k, hk⟩ := ih last others
        have same : valueOf (c :: s) = valueOf s := by rw [valueOf_cons, zero]; rfl
        have front : [c] = ['0'] := by rw [← digitsOf_digitValue first, zero]; rfl
        refine ⟨k + 1, ?_⟩
        rw [same, (List.cons.inj front).1]
        exact congrArg (List.cons '0') hk
    · refine ⟨0, ?_⟩
      rw [valueOf_cons, ← digitsOf_valueBehind (Nat.pos_of_ne_zero zero) others, whole]
      rfl

theorem isDigit_of_mem_zeros_digitsOf {k n : Nat} {c : Char} (h : c ∈ zeros k ++ digitsOf n) :
    c.isDigit := by
  obtain zero | digit := List.mem_append.1 h
  · rw [List.eq_of_mem_replicate zero]
    rfl
  · exact isDigit_of_mem_digitsOf digit

/-- A number is read from its digits, with zeros in front of them or without. -/
theorem readDigits_eq_some_iff {s : List Char} {n : Nat} :
    readDigits s = some n ↔ ∃ k, s = zeros k ++ digitsOf n := by
  unfold readDigits
  constructor
  · intro h
    split at h
    · next digits =>
      cases h
      exact exists_zeros digits.1 (List.all_eq_true.1 digits.2)
    · cases h
  · rintro ⟨k, rfl⟩
    have digits : ∀ c ∈ zeros k ++ digitsOf n, c.isDigit := fun c => isDigit_of_mem_zeros_digitsOf
    have some : zeros k ++ digitsOf n ≠ [] := by simp [digitsOf_ne_nil]
    rw [if_pos ⟨some, List.all_eq_true.2 digits⟩, valueOf_zeros, valueOf_digitsOf]

/-- A number as it may be written: its digits, zeros in front of them, and a plus
sign in front of all. -/
inductive Spelled (n : Nat) : List Char → Prop where
  | plain (k : Nat) : Spelled n (zeros k ++ digitsOf n)
  | signed (k : Nat) : Spelled n ('+' :: (zeros k ++ digitsOf n))

namespace Spelled

variable {n : Nat} {s : List Char}

theorem of_digits (n : Nat) : Spelled n (digitsOf n) := .plain 0

theorem mem (h : Spelled n s) : ∀ c ∈ s, c = '+' ∨ c.isDigit := by
  intro c hc
  cases h with
  | plain k => exact .inr (isDigit_of_mem_zeros_digitsOf hc)
  | signed k => exact (List.mem_cons.1 hc).imp_right isDigit_of_mem_zeros_digitsOf

/-- The sign is no digit, so it is seen which of the two it is. -/
theorem signed_iff : Spelled n ('+' :: s) ↔ ∃ k, s = zeros k ++ digitsOf n := by
  constructor
  · intro h
    generalize same : '+' :: s = t at h
    cases h with
    | plain k =>
      have digit : '+'.isDigit :=
        isDigit_of_mem_zeros_digitsOf (k := k) (n := n) (same ▸ List.mem_cons_self)
      cases digit
    | signed k => exact ⟨k, (List.cons.inj same).2⟩
  · rintro ⟨k, rfl⟩
    exact .signed k

theorem plain_iff (h : s.head? ≠ some '+') : Spelled n s ↔ ∃ k, s = zeros k ++ digitsOf n := by
  constructor
  · intro spelled
    cases spelled with
    | plain k => exact ⟨k, rfl⟩
    | signed k => exact absurd rfl h
  · rintro ⟨k, rfl⟩
    exact .plain k

end Spelled

/-- A number up to the limit is read from the texts that spell it. -/
theorem readNat_eq_some_iff {limit n : Nat} {s : List Char} :
    readNat limit s = some n ↔ Spelled n s ∧ n ≤ limit := by
  rw [readNat, Option.filter_eq_some_iff, readDigits_eq_some_iff, decide_eq_true_iff]
  refine and_congr_left fun _ => ?_
  by_cases sign : s.head? = some '+'
  · obtain ⟨r, rfl⟩ := List.head?_eq_some_iff.1 sign
    rw [if_pos sign]
    exact Spelled.signed_iff.symm
  · rw [if_neg sign]
    exact (Spelled.plain_iff sign).symm

/-! ## Numbers with a point -/

theorem isDigit_of_mem_text {d : Decimal} {c : Char} (h : c ∈ d.text) : c.isDigit :=
  Nat.isDigit_of_mem_toDigits (by decide) (by decide) h

theorem isDigit_of_mem_zeros {n : Nat} {c : Char} (h : c ∈ zeros n) : c.isDigit := by
  rw [List.eq_of_mem_replicate h]
  rfl

/-- Without an exponent, a number is written with digits, a point and what follows
a number that is whole. -/
theorem mem_positional {point : List Char} {d : Decimal} {c : Char} (h : c ∈ positional point d) :
    c.isDigit ∨ c = '.' ∨ c ∈ point := by
  unfold positional at h
  dsimp only at h
  split at h
  · rw [List.mem_append, List.mem_append] at h
    obtain (digit | zero) | behind := h
    · exact .inl (isDigit_of_mem_text digit)
    · exact .inl (isDigit_of_mem_zeros zero)
    · exact .inr (.inr behind)
  split at h
  · obtain whole | point := List.mem_append.1 h
    · exact .inl (isDigit_of_mem_text (List.mem_of_mem_take whole))
    · obtain rfl | fraction := List.mem_cons.1 point
      · exact .inr (.inl rfl)
      · exact .inl (isDigit_of_mem_text (List.mem_of_mem_drop fraction))
  · obtain lead | digit := List.mem_append.1 h
    · obtain rfl | lead := List.mem_cons.1 lead
      · exact .inl rfl
      · obtain rfl | zero := List.mem_cons.1 lead
        · exact .inr (.inl rfl)
        · exact .inl (isDigit_of_mem_zeros zero)
    · exact .inl (isDigit_of_mem_text digit)

end QueryGate.Number
