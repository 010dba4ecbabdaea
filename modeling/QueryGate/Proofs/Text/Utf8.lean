import QueryGate.Text.Utf8
/-!
# Decoding what was encoded

A text comes back from its bytes as it was.
-/

namespace QueryGate.Text.Utf8

/-! ## Bytes under way -/

theorem read_cons (p : Option Pending) (b : UInt8) (bs : List UInt8) :
    read p (b :: bs) = (step p b).1 ++ read (step p b).2 bs := rfl

theorem step_some (p : Pending) (b : UInt8) (h : p.low.toNat ≤ b.toNat ∧ b.toNat ≤ p.high.toNat) :
    step (some p) b =
      if p.missing ≤ 1 then ([some (Char.ofNat (p.value * 64 + (b.toNat - 0x80)))], none)
      else ([], some ⟨p.value * 64 + (b.toNat - 0x80), p.missing - 1, 0x80, 0xBF⟩) := by
  have range : p.low ≤ b ∧ b ≤ p.high := h
  rw [step, if_pos range]

/-- A byte behind which more are missing. -/
theorem read_continue {v m : Nat} {lo hi b : UInt8} (bs : List UInt8) (hm : 1 < m)
    (h : lo.toNat ≤ b.toNat ∧ b.toNat ≤ hi.toNat) :
    read (some ⟨v, m, lo, hi⟩) (b :: bs) =
      read (some ⟨v * 64 + (b.toNat - 0x80), m - 1, 0x80, 0xBF⟩) bs := by
  have more : ¬ m ≤ 1 := by omega
  rw [read_cons, step_some _ _ h, if_neg more]
  rfl

/-- The last byte of a character. -/
theorem read_last {v : Nat} {lo hi b : UInt8} (bs : List UInt8)
    (h : lo.toNat ≤ b.toNat ∧ b.toNat ≤ hi.toNat) :
    read (some ⟨v, 1, lo, hi⟩) (b :: bs) =
      some (Char.ofNat (v * 64 + (b.toNat - 0x80))) :: read none bs := by
  rw [read_cons, step_some _ _ h, if_pos (Nat.le_refl 1)]
  rfl

theorem read_start {b : UInt8} {p : Pending} (bs : List UInt8) (h : start b = ([], some p)) :
    read none (b :: bs) = read (some p) bs := by
  rw [read_cons, step, h]
  rfl

/-! ## Characters by their length -/

theorem read_two {v : Nat} (bs : List UInt8) (h : 0x80 ≤ v ∧ v ≤ 0x7FF) :
    read none (UInt8.ofNat (v / 64 % 32 + 192) :: UInt8.ofNat (v % 64 + 128) :: bs) =
      some (Char.ofNat v) :: read none bs := by
  have b1 : (UInt8.ofNat (v / 64 % 32 + 192)).toNat = v / 64 + 192 := by simp; omega
  have b2 : (UInt8.ofNat (v % 64 + 128)).toNat = v % 64 + 128 := by simp; omega
  have first : start (UInt8.ofNat (v / 64 % 32 + 192)) = ([], some ⟨v / 64, 1, 0x80, 0xBF⟩) := by
    simp only [start, b1]
    rw [if_neg (by omega), if_neg (by omega), if_pos (by omega)]
    simp
  have range : (0x80 : UInt8).toNat ≤ v % 64 + 128 ∧ v % 64 + 128 ≤ (0xBF : UInt8).toNat := by
    simp; omega
  have value : v / 64 * 64 + (v % 64 + 128 - 0x80) = v := by omega
  rw [read_start _ first, read_last _ (by rwa [b2]), b2, value]

/-- The first of three bytes. It sets the range of the second: no character has
two encodings, and surrogates have none. -/
theorem start_three {v : Nat} (h : 0x800 ≤ v ∧ v ≤ 0xFFFF) (valid : v < 0xD800 ∨ 0xDFFF < v) :
    ∃ lo hi : UInt8, start (UInt8.ofNat (v / 4096 % 16 + 224)) = ([], some ⟨v / 4096, 2, lo, hi⟩) ∧
      lo.toNat ≤ v / 64 % 64 + 128 ∧ v / 64 % 64 + 128 ≤ hi.toNat := by
  have b1 : (UInt8.ofNat (v / 4096 % 16 + 224)).toNat = v / 4096 + 224 := by simp; omega
  simp only [start, b1]
  rw [if_neg (by omega), if_neg (by omega), if_neg (by omega)]
  by_cases first : v / 4096 = 0
  · refine ⟨0xA0, 0xBF, by simp [first], ?_, ?_⟩ <;> (simp; omega)
  by_cases surrogates : v / 4096 = 13
  · refine ⟨0x80, 0x9F, by simp [surrogates], by simp, ?_⟩
    simp; omega
  refine ⟨0x80, 0xBF, ?_, ?_, ?_⟩
  · rw [if_neg (by simp; omega), if_neg (by simp; omega), if_pos (by omega)]
    simp
  · simp
  · simp; omega

theorem read_three {v : Nat} (bs : List UInt8) (h : 0x800 ≤ v ∧ v ≤ 0xFFFF)
    (valid : v < 0xD800 ∨ 0xDFFF < v) :
    read none (UInt8.ofNat (v / 4096 % 16 + 224) :: UInt8.ofNat (v / 64 % 64 + 128) ::
      UInt8.ofNat (v % 64 + 128) :: bs) = some (Char.ofNat v) :: read none bs := by
  have b2 : (UInt8.ofNat (v / 64 % 64 + 128)).toNat = v / 64 % 64 + 128 := by simp; omega
  have b3 : (UInt8.ofNat (v % 64 + 128)).toNat = v % 64 + 128 := by simp; omega
  obtain ⟨lo, hi, first, range⟩ := start_three h valid
  have last : (0x80 : UInt8).toNat ≤ v % 64 + 128 ∧ v % 64 + 128 ≤ (0xBF : UInt8).toNat := by
    simp; omega
  have value : (v / 4096 * 64 + (v / 64 % 64 + 128 - 0x80)) * 64 + (v % 64 + 128 - 0x80) = v := by
    omega
  rw [read_start _ first, read_continue _ (by decide) (by rwa [b2]), read_last _ (by rwa [b3]), b2,
    b3, value]

/-- The first of four bytes, which keeps the character within range. -/
theorem start_four {v : Nat} (h : 0x10000 ≤ v ∧ v < 0x110000) :
    ∃ lo hi : UInt8, start (UInt8.ofNat (v / 262144 % 8 + 240)) =
        ([], some ⟨v / 262144, 3, lo, hi⟩) ∧
      lo.toNat ≤ v / 4096 % 64 + 128 ∧ v / 4096 % 64 + 128 ≤ hi.toNat := by
  have b1 : (UInt8.ofNat (v / 262144 % 8 + 240)).toNat = v / 262144 + 240 := by simp; omega
  simp only [start, b1]
  rw [if_neg (by omega), if_neg (by omega), if_neg (by omega), if_neg (by simp),
    if_neg (by simp), if_neg (by omega)]
  by_cases first : v / 262144 = 0
  · refine ⟨0x90, 0xBF, by simp [first], ?_, ?_⟩ <;> (simp; omega)
  by_cases last : v / 262144 = 4
  · refine ⟨0x80, 0x8F, by simp [last], by simp, ?_⟩
    simp; omega
  refine ⟨0x80, 0xBF, ?_, ?_, ?_⟩
  · rw [if_neg (by simp; omega), if_neg (by simp; omega), if_pos (by omega)]
    simp
  · simp
  · simp; omega

theorem read_four {v : Nat} (bs : List UInt8) (h : 0x10000 ≤ v ∧ v < 0x110000) :
    read none (UInt8.ofNat (v / 262144 % 8 + 240) :: UInt8.ofNat (v / 4096 % 64 + 128) ::
      UInt8.ofNat (v / 64 % 64 + 128) :: UInt8.ofNat (v % 64 + 128) :: bs) =
      some (Char.ofNat v) :: read none bs := by
  have b2 : (UInt8.ofNat (v / 4096 % 64 + 128)).toNat = v / 4096 % 64 + 128 := by simp; omega
  have b3 : (UInt8.ofNat (v / 64 % 64 + 128)).toNat = v / 64 % 64 + 128 := by simp; omega
  have b4 : (UInt8.ofNat (v % 64 + 128)).toNat = v % 64 + 128 := by simp; omega
  obtain ⟨lo, hi, first, range⟩ := start_four h
  have third : (0x80 : UInt8).toNat ≤ v / 64 % 64 + 128 ∧
      v / 64 % 64 + 128 ≤ (0xBF : UInt8).toNat := by
    simp; omega
  have last : (0x80 : UInt8).toNat ≤ v % 64 + 128 ∧ v % 64 + 128 ≤ (0xBF : UInt8).toNat := by
    simp; omega
  have value : ((v / 262144 * 64 + (v / 4096 % 64 + 128 - 0x80)) * 64 +
      (v / 64 % 64 + 128 - 0x80)) * 64 + (v % 64 + 128 - 0x80) = v := by
    omega
  rw [read_start _ first, read_continue _ (by decide) (by rwa [b2]),
    read_continue _ (by decide) (by rwa [b3]), read_last _ (by rwa [b4]), b2, b3, b4, value]

/-! ## Texts -/

theorem read_encodeChar (c : Char) (bs : List UInt8) :
    read none (String.utf8EncodeChar c ++ bs) = some c :: read none bs := by
  have valid : c.toNat < 0xD800 ∨ 0xDFFF < c.toNat ∧ c.toNat < 0x110000 := c.valid
  have whole : Char.ofNat c.toNat = c := Char.ofNat_toNat c
  unfold String.utf8EncodeChar
  simp only [Char.toNat_val]
  by_cases one : c.toNat ≤ 127
  · have b : (UInt8.ofNat c.toNat).toNat = c.toNat := by simp; omega
    have first : start (UInt8.ofNat c.toNat) = ([some c], none) := by
      rw [start, b, whole, if_pos (by omega)]
    rw [if_pos one, List.singleton_append, read_cons, step, first]
    rfl
  rw [if_neg one]
  by_cases two : c.toNat ≤ 2047
  · rw [if_pos two]
    exact (read_two bs (by omega)).trans (by rw [whole])
  rw [if_neg two]
  by_cases three : c.toNat ≤ 65535
  · rw [if_pos three]
    exact (read_three bs (by omega) (by omega)).trans (by rw [whole])
  · rw [if_neg three]
    exact (read_four bs (by omega)).trans (by rw [whole])

theorem characters_encode (s : List Char) : characters (encode s) = s.map some := by
  induction s with
  | nil => rfl
  | cons c s ih =>
    have : encode (c :: s) = String.utf8EncodeChar c ++ encode s := rfl
    rw [characters, this, read_encodeChar, List.map_cons, ← ih]
    rfl

theorem decodeLossy_encode (s : List Char) : decodeLossy (encode s) = s := by
  rw [decodeLossy, characters_encode, List.map_map]
  exact List.map_id s

end QueryGate.Text.Utf8
