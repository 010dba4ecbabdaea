import QueryGate.Sql.Token
/-!
# Where a literal closes

The place of the closing mark, apart from the content read on the way to it, and
what it has to do with the text behind.
-/

namespace QueryGate.Sql.Token

/-- The number of characters up to and with the mark that closes a literal. -/
def closing (mark : Char) (escapes : Bool) : List Char → Option Nat
  | [] => none
  | [c] => if c = mark then some 1 else none
  | c :: d :: r =>
    if escapes ∧ c = '\\' then (closing mark escapes r).map (· + 2)
    else if c = mark then if d = mark then (closing mark escapes r).map (· + 2) else some 1
    else (closing mark escapes (d :: r)).map (· + 1)

variable {mark : Char} {escapes : Bool}

theorem closing_eq (mark : Char) (escapes : Bool) (s : List Char) :
    closing mark escapes s = (closed mark escapes s).map Prod.snd := by
  fun_induction closing mark escapes s with
  | case1 => rfl
  | case2 => simp [closed]
  | case3 c h => simp [closed, h]
  | case4 c d r h ih =>
    rw [closed, if_pos h, ih]
    simp [Function.comp_def]
  | case5 r h ih =>
    rw [closed, if_neg h, if_pos rfl, if_pos rfl, ih]
    simp [Function.comp_def]
  | case6 d r hd h => rw [closed, if_neg h, if_pos rfl, if_neg hd]; rfl
  | case7 c d r h hc ih =>
    rw [closed, if_neg h, if_neg hc, ih]
    simp [Function.comp_def]

theorem closing_of_closed {s content : List Char} {n : Nat}
    (h : closed mark escapes s = some (content, n)) : closing mark escapes s = some n := by
  rw [closing_eq, h]
  rfl

theorem closing_pos {s : List Char} {n : Nat} (h : closing mark escapes s = some n) : 0 < n := by
  fun_induction closing mark escapes s generalizing n with
  | case1 | case3 => cases h
  | case2 | case6 => cases h; omega
  | case4 | case5 | case7 =>
    obtain ⟨k, -, rfl⟩ := Option.map_eq_some_iff.1 h
    omega

theorem closing_le {s : List Char} {n : Nat} (h : closing mark escapes s = some n) :
    n ≤ s.length := by
  fun_induction closing mark escapes s generalizing n with
  | case1 | case3 => cases h
  | case2 | case6 => cases h; simp
  | case4 c d r _ ih | case5 r _ ih | case7 c d r _ _ ih =>
    obtain ⟨k, hk, rfl⟩ := Option.map_eq_some_iff.1 h
    have := ih hk
    simp only [List.length_cons] at *
    omega

theorem closing_last {s : List Char} {n : Nat} (h : closing mark escapes s = some n) :
    (s.take n).getLast? = some mark := by
  fun_induction closing mark escapes s generalizing n with
  | case1 | case3 => cases h
  | case2 | case6 => cases h; rfl
  | case4 c d r _ ih | case5 r _ ih | case7 c d r _ _ ih =>
    obtain ⟨k, hk, rfl⟩ := Option.map_eq_some_iff.1 h
    simp only [List.take_succ_cons, List.getLast?_cons, ih hk, Option.getD_some]

/-- A literal closes where it did, whatever stands behind it: unless it closed
at the very end and another mark follows, which makes one of two. -/
theorem closing_append (plain : mark ≠ '\\') {s more : List Char} {n : Nat}
    (h : closing mark escapes s = some n) (hn : n < s.length ∨ more.head? ≠ some mark) :
    closing mark escapes (s ++ more) = some n := by
  fun_induction closing mark escapes s generalizing n with
  | case1 | case3 => cases h
  | case2 =>
    cases h
    cases more with
    | nil => simp [closing]
    | cons d more =>
      have other : d ≠ mark := by simpa using hn
      simp [closing, plain, other]
  | case4 c d r he ih =>
    obtain ⟨k, hk, rfl⟩ := Option.map_eq_some_iff.1 h
    simp only [List.length_cons, Nat.add_lt_add_iff_right] at hn
    rw [List.cons_append, List.cons_append, closing, if_pos he, ih hk (by omega)]
    rfl
  | case5 r he ih =>
    obtain ⟨k, hk, rfl⟩ := Option.map_eq_some_iff.1 h
    rw [List.cons_append, List.cons_append, closing, if_neg he, if_pos rfl, if_pos rfl,
      ih hk (by simpa using hn)]
    rfl
  | case6 d r hd he =>
    rw [List.cons_append, List.cons_append, closing, if_neg he, if_pos rfl, if_neg hd, h]
  | case7 c d r he hc ih =>
    obtain ⟨k, hk, rfl⟩ := Option.map_eq_some_iff.1 h
    rw [List.cons_append, List.cons_append, closing, if_neg he, if_neg hc, ← List.cons_append,
      ih hk (by simpa using hn)]
    rfl

/-- What closes at the end of a text closes there without the text behind it. -/
theorem closing_of_append (plain : mark ≠ '\\') {s more : List Char}
    (h : closing mark escapes (s ++ more) = some s.length) :
    closing mark escapes s = some s.length ∧ more.head? ≠ some mark := by
  have shorter {r : List Char} (hr : (closing mark escapes (r ++ more)).map (· + 2) =
      some (r.length + 2)) : closing mark escapes (r ++ more) = some r.length := by
    obtain ⟨k, hk, same⟩ := Option.map_eq_some_iff.1 hr
    rwa [show r.length = k by omega]
  fun_induction closing mark escapes s with
  | case1 => exact absurd (closing_pos h) (Nat.lt_irrefl 0)
  | case2 =>
    refine ⟨rfl, fun next => ?_⟩
    obtain ⟨more, rfl⟩ := List.head?_eq_some_iff.1 next
    -- Two marks in a row close nothing before the second one.
    simp [closing, plain] at h
  | case3 c hc =>
    cases more with
    | nil => simp [closing, hc] at h
    | cons d more =>
      rw [List.cons_append, List.nil_append, closing] at h
      split at h
      · obtain ⟨k, -, length⟩ := Option.map_eq_some_iff.1 h
        simp at length
      · obtain ⟨k, hk, length⟩ := Option.map_eq_some_iff.1 h
        have := closing_pos hk
        simp only [List.length_singleton] at length
        omega
  | case4 c d r he ih =>
    rw [List.cons_append, List.cons_append, closing, if_pos he] at h
    obtain ⟨same, next⟩ := ih (shorter h)
    exact ⟨by rw [same]; rfl, next⟩
  | case5 r he ih =>
    rw [List.cons_append, List.cons_append, closing, if_neg he, if_pos rfl, if_pos rfl] at h
    obtain ⟨same, next⟩ := ih (shorter h)
    exact ⟨by rw [same]; rfl, next⟩
  | case6 d r hd he =>
    rw [List.cons_append, List.cons_append, closing, if_neg he, if_pos rfl, if_neg hd] at h
    cases h
  | case7 c d r he hc ih =>
    rw [List.cons_append, List.cons_append, closing, if_neg he, if_neg hc, ← List.cons_append] at h
    obtain ⟨k, hk, length⟩ := Option.map_eq_some_iff.1 h
    rw [← Nat.succ.inj length] at ih
    obtain ⟨same, next⟩ := ih hk
    exact ⟨by rw [same]; exact congrArg some length, next⟩

end QueryGate.Sql.Token
