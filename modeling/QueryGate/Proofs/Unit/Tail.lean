import QueryGate.Proofs.Unit.Cut
import QueryGate.Proofs.Unit.Idle
/-!
# Units in front of a tail

A text that begins with a space and that no mark, no end of a line and no slash
is in. No unit that begins before it goes on into it, except a comment up to the
end of the line, which takes it whole.
-/

namespace QueryGate.Sql

/-- What no literal and no comment ends in, behind a space. -/
structure Tail (tail : List Char) : Prop where
  space : tail.head? = some ' '
  unmarked : Unmarked tail
  line : '\n' ∉ tail
  slash : '/' ∉ tail

namespace Token

/-- A line goes to the end of the text or ends before a tail that has no end of
a line. -/
theorem lineLength_tail {s tail : List Char} (h : '\n' ∉ tail) :
    lineLength (s ++ tail) ≤ s.length ∨ lineLength (s ++ tail) = (s ++ tail).length := by
  induction s with
  | nil =>
    right
    induction tail with
    | nil => rfl
    | cons c tail ih =>
      obtain ⟨first, later⟩ := List.ne_and_not_mem_of_not_mem_cons h
      rw [List.nil_append, lineLength, if_neg first.symm]
      exact congrArg (· + 1) (ih later)
  | cons c s ih =>
    rw [List.cons_append, lineLength]
    split
    · left; simp
    · simpa using ih

theorem blockLength_last {s : List Char} {n : Nat} (h : blockLength s = some n) :
    (s.take n).getLast? = some '/' := by
  fun_induction blockLength s generalizing n with
  | case1 | case2 => cases h
  | case3 c d r ends => cases h; simp [ends]
  | case4 c d r _ ih =>
    obtain ⟨k, hk, rfl⟩ := Option.map_eq_some_iff.1 h
    rw [List.take_succ_cons, List.getLast?_cons, ih hk, Option.getD_some]

/-- How long a comment is, by how it begins. -/
theorem comment_inv {before : Option Token} {c : Char} {rest : List Char} {n : Nat}
    (h : scan before c rest = .ok (.comment, n)) :
    n = 1 + lineLength rest ∨ ∃ r m, rest = '*' :: r ∧ blockLength r = some m ∧ n = 2 + m := by
  obtain ⟨blank, start⟩ | rfl | rfl | ⟨rfl, second, third⟩ | ⟨rfl, second⟩ :=
    idle_inv h (.inr (.inr rfl))
  · rw [scan_blank blank start] at h
    cases h
  · cases h
  · cases h
    exact .inl rfl
  · rw [scan_line _ second third] at h
    cases h
    exact .inl rfl
  · obtain ⟨r, rfl⟩ := List.head?_eq_some_iff.1 second
    rw [scan_block] at h
    split at h
    · next m closes =>
      cases h
      exact .inr ⟨r, m, rfl, closes, rfl⟩
    · cases h

variable {before : Option Token} {c : Char} {r tail : List Char} {token : Token} {n : Nat}

/-- What a unit that goes on into the tail has of it. -/
theorem exists_entered (ht : Tail tail) (enters : r.length < n - 1) :
    ∃ more, (r ++ tail).take (n - 1) = r ++ ' ' :: more ∧ ∀ d ∈ ' ' :: more, d ∈ tail := by
  obtain ⟨rest, rfl⟩ := List.head?_eq_some_iff.1 ht.space
  refine ⟨rest.take (n - 1 - r.length - 1), ?_, fun d hd => ?_⟩
  · rw [List.take_append, List.take_of_length_le (by omega)]
    obtain ⟨m, hm⟩ : ∃ m, n - 1 - r.length = m + 1 := ⟨n - 1 - r.length - 1, by omega⟩
    rw [hm, List.take_succ_cons]
    rfl
  · obtain rfl | later := List.mem_cons.1 hd
    · exact List.mem_cons_self
    · exact List.mem_cons_of_mem _ (List.mem_of_mem_take later)

/-- A unit ends in front of the tail, unless it is a comment that ends with the
text. -/
theorem within_of_scan (ht : Tail tail) (h : scan before c (r ++ tail) = .ok (token, n)) :
    n - 1 ≤ r.length ∨ token = .comment ∧ (r ++ tail).drop (n - 1) = [] := by
  refine Decidable.or_iff_not_imp_left.2 fun enters => ?_
  obtain ⟨more, source, within⟩ := exists_entered ht (Nat.lt_of_not_le enters)
  have inside : ' ' ∈ r ++ ' ' :: more := by simp
  -- The unit ends with what the tail has, so with no mark.
  have last {d : Char} {f : List Char} (hd : (f ++ ' ' :: more).getLast? = some d) :
      d ∈ tail := by
    rw [List.getLast?_append, List.getLast?_cons, Option.some_or, ← List.getLast?_cons] at hd
    exact within d (List.mem_of_getLast? hd)
  have unclosed {l inner behind : List Char} {q : Quote} {escapes : Bool}
      (hs : c :: (r ++ ' ' :: more) = l ++ q.char :: inner)
      (closes : closing q.char escapes (inner ++ behind) = some inner.length) : False := by
    have ends : inner.getLast? = some q.char := by simpa using closing_last closes
    have mark : q.char ∈ tail := by
      refine last (f := c :: r) ?_
      rw [List.cons_append, hs, List.getLast?_append, List.getLast?_cons, ends]
      rfl
    simpa using ht.unmarked _ mark
  have cut := cut_of_scan h
  rw [source] at cut
  generalize hs : c :: (r ++ ' ' :: more) = whole at cut
  cases cut with
  | plain _ _ _ _ spaceless => exact absurd (hs ▸ inside) spaceless
  | comment =>
    refine ⟨rfl, ?_⟩
    obtain rfl | ⟨body, m, same, ends, rfl⟩ := comment_inv h
    · rw [Nat.add_sub_cancel_left] at enters ⊢
      obtain short | whole := lineLength_tail (s := r) ht.line
      · exact absurd short enters
      · rw [whole, List.drop_length]
    · rw [same, show 2 + m - 1 = m + 1 by omega, List.take_succ_cons] at source
      have slash := last (by
        rw [← source, List.getLast?_cons, blockLength_last ends, Option.getD_some])
      exact absurd slash ht.slash
  | quoted _ _ _ _ closes => exact (unclosed hs closes).elim
  | @bits _ letter _ _ _ _ _ closes => exact (unclosed (l := [letter]) hs closes).elim
  | marked q _ bare =>
    rw [(List.cons.inj hs).2] at inside
    obtain sign | mark | later : ' ' = '@' ∨ ' ' = q.char ∨ ' ' ∈ _ := by simpa using inside
    · cases sign
    · cases q <;> cases mark
    · exact absurd later bare.spaceless

end Token

/-! ## The units of a text that ends with a tail -/

/-- The text in front of a tail has units of its own, and the tail has the
others, unless the last of all units is a comment. -/
theorem lexemes_tail {before : Option Token} {s tail : List Char} {ls : List Lexeme}
    (ht : Tail tail) (h : lexemesAfter before (s ++ tail) = .ok ls) :
    (∃ l, ls.getLast? = some l ∧ l.token = .comment) ∨
      ∃ front back last, ls = front ++ back ∧ lexemesAfter last tail = .ok back := by
  induction hn : s.length using Nat.strongRecOn generalizing s before ls with
  | _ n ih =>
  cases s with
  | nil => exact .inr ⟨[], ls, before, rfl, h⟩
  | cons c s =>
    cases ls with
    | nil => cases source_lexemesAfter h
    | cons l ls =>
      rw [List.cons_append] at h
      obtain ⟨m, hscan, -, hrest⟩ := lexemesAfter_cons.1 h
      -- The first unit leaves the tail as it is, or is a comment and the last unit.
      obtain within | ⟨comment, ends⟩ := Token.within_of_scan ht hscan
      · rw [List.drop_append_of_le_length within] at hrest
        simp only [List.length_cons] at hn
        have shorter : (s.drop (m - 1)).length < n := by rw [List.length_drop]; omega
        obtain ⟨last, hl, comment⟩ | ⟨front, back, last, rfl, hback⟩ := ih _ shorter hrest rfl
        · exact .inl ⟨last, by rw [List.getLast?_cons, hl, Option.getD_some], comment⟩
        · exact .inr ⟨l :: front, back, last, rfl, hback⟩
      · rw [ends, lexemesAfter] at hrest
        cases hrest
        exact .inl ⟨l, rfl, comment⟩

end QueryGate.Sql
