import QueryGate.Proofs.Text.Words
import QueryGate.Sql.Token
/-!
# Names as units

What a name begins with and goes on with, and when a name is the first unit of a
text.
-/

namespace QueryGate.Sql

open Text (upperChar)

theorem isNameStart_iff {c : Char} :
    isNameStart c ↔ (65 ≤ c.toNat ∧ c.toNat ≤ 90) ∨ (97 ≤ c.toNat ∧ c.toNat ≤ 122) ∨
      c = '_' ∨ c = '$' ∨ c = '@' ∨ 128 ≤ c.toNat := by
  have alpha : c.isAlpha =
      (decide (c.val ≥ 65 ∧ c.val ≤ 90) || decide (c.val ≥ 97) && decide (c.val ≤ 122)) := rfl
  simp [isNameStart, alpha, UInt32.le_iff_toNat_le, or_assoc]

theorem isDigit_iff {c : Char} : c.isDigit ↔ 48 ≤ c.toNat ∧ c.toNat ≤ 57 := by
  simp [Char.isDigit, UInt32.le_iff_toNat_le]

theorem not_isDigit_of_isNameStart {c : Char} (hc : isNameStart c) : c.isDigit = false := by
  cases h : c.isDigit with
  | false => rfl
  | true =>
    have digit := isDigit_iff.1 h
    rcases isNameStart_iff.1 hc with upper | lower | rfl | rfl | rfl | other
    · omega
    · omega
    · cases h
    · cases h
    · cases h
    · omega

theorem ascii_of_not_isNamePart {c : Char} (h : isNamePart c = false) : c.toNat < 128 := by
  rw [isNamePart, Bool.or_eq_false_iff] at h
  cases Nat.lt_or_ge c.toNat 128 with
  | inl ascii => exact ascii
  | inr other =>
    have start : isNameStart c := isNameStart_iff.2 (by omega)
    rw [start] at h
    cases h.1

/-- What may stand behind a name has no other capital form. -/
theorem upperChar_of_not_isNamePart {c : Char} (h : isNamePart c = false) : upperChar c = [c] := by
  obtain ⟨n, rfl⟩ := Text.exists_ofNat (ascii_of_not_isNamePart h)
  revert n
  decide

/-- The letters that may stand before a quoted text. -/
def introducers : List Char := ['b', 'B', 'n', 'N', 'x', 'X']

theorem scan_name {c : Char} (hc : isNameStart c) (hat : c ≠ '@') (hi : c ∉ introducers)
    (before : Option Token) (rest : List Char) :
    Token.scan before c rest = .ok (Token.name (c :: rest) 1) := by
  have ne : ∀ d : Char, isNameStart d = false → c ≠ d := by
    rintro d hd rfl
    rw [hd] at hc
    cases hc
  simp only [introducers, List.mem_cons, not_or] at hi
  simp [Token.scan, ne ' ' rfl, ne '\t' rfl, ne '\n' rfl, ne '\r' rfl, hi, ne '\'' rfl, ne '"' rfl,
    ne '\x60' rfl, not_isDigit_of_isNameStart hc, ne '.' rfl, ne '-' rfl, ne '#' rfl, ne '/' rfl,
    hat, ne '?' rfl, hc]

theorem take_takeWhile {α : Type} (p : α → Bool) (l : List α) :
    l.take (l.takeWhile p).length = l.takeWhile p :=
  (List.prefix_iff_eq_take.1 (List.takeWhile_prefix p)).symm

theorem name_one (c : Char) (rest : List Char) :
    Token.name (c :: rest) 1 =
      (Token.ofName (c :: rest.takeWhile isNamePart), 1 + (rest.takeWhile isNamePart).length) := by
  simp [Token.name, Nat.add_comm 1, take_takeWhile]

/-- A text that begins like a name has a name as its first unit. -/
theorem tokens_of_name {c : Char} {rest : List Char} {ls : List Lexeme} (hc : isNameStart c)
    (hat : c ≠ '@') (hi : c ∉ introducers) (h : lexemes (c :: rest) = .ok ls) :
    ∃ more, tokens ls = Token.ofName (c :: rest.takeWhile isNamePart) :: more := by
  rw [lexemes, lexemesAfter, scan_name hc hat hi, name_one] at h
  dsimp only at h
  split at h
  · cases h
  · cases h
    exact ⟨_, rfl⟩

end QueryGate.Sql
