import Mathlib.Algebra.BigOperators.Group.List.Basic
import Mathlib.Algebra.GroupWithZero.Nat
/-!
# The lines of a text

A line ends at a line feed, at a carriage return, or at the two together. Texts
that end with a line feed can be put one behind the other: their line ends add up,
and if each is one line, the lines of the whole are they.
-/

namespace QueryGate.Text

def isLineEnd (c : Char) : Bool := c == '\n' || c == '\r'

/-- A character in front of the first line. -/
def lengthened (c : Char) : List (List Char) → List (List Char)
  | [] => [[c]]
  | l :: ls => (c :: l) :: ls

/-- The lines of a text; what is behind the last line end is a line too. -/
def lines : List Char → List (List Char)
  | [] => [[]]
  | '\r' :: '\n' :: r => [] :: lines r
  | c :: r => if isLineEnd c then [] :: lines r else lengthened c (lines r)

/-- How often a line ends. -/
def lineEnds : List Char → Nat
  | [] => 0
  | '\r' :: '\n' :: r => lineEnds r + 1
  | c :: r => if isLineEnd c then lineEnds r + 1 else lineEnds r

variable {α : Type} {c : Char} {s a b body : List Char}

theorem isLineEnd_iff : isLineEnd c = true ↔ c = '\n' ∨ c = '\r' := by
  simp [isLineEnd]

/-! ## Character by character -/

/-- The two characters of a line end are not seen one by one. -/
def IsApart (c : Char) (s : List Char) : Prop := ¬ (c = '\r' ∧ s.head? = some '\n')

theorem lines_cons (h : IsApart c s) :
    lines (c :: s) = if isLineEnd c then [] :: lines s else lengthened c (lines s) := by
  rw [lines.eq_def]
  split
  · next same => cases same
  · next same =>
    cases same
    exact absurd ⟨rfl, rfl⟩ h
  · next same =>
    cases same
    rfl

theorem lineEnds_cons (h : IsApart c s) :
    lineEnds (c :: s) = if isLineEnd c then lineEnds s + 1 else lineEnds s := by
  rw [lineEnds.eq_def]
  split
  · next same => cases same
  · next same =>
    cases same
    exact absurd ⟨rfl, rfl⟩ h
  · next same =>
    cases same
    rfl

/-- A text is seen from its end on, a line end of two characters at once. -/
theorem line_induction {P : List Char → Prop} (nil : P [])
    (both : ∀ r, P r → P ('\r' :: '\n' :: r)) (one : ∀ c r, IsApart c r → P r → P (c :: r))
    (s : List Char) : P s := by
  induction s using lines.induct with
  | case1 => exact nil
  | case2 r ih => exact both r ih
  | case3 c r other _ ih | case4 c r other _ ih =>
    apply one c r _ ih
    rintro ⟨rfl, first⟩
    obtain ⟨r, rfl⟩ := List.head?_eq_some_iff.1 first
    exact other r rfl rfl

theorem isApart_of_other (h : isLineEnd c = false) (s : List Char) : IsApart c s := by
  rintro ⟨rfl, -⟩
  cases h

theorem lines_ne_nil (s : List Char) : lines s ≠ [] := by
  induction s using line_induction with
  | nil => simp [lines]
  | both r _ => simp [lines]
  | one c r apart _ =>
    rw [lines_cons apart]
    split
    · simp
    · cases lines r <;> simp [lengthened]

theorem length_lines (s : List Char) : (lines s).length = lineEnds s + 1 := by
  induction s using line_induction with
  | nil => rfl
  | both r ih => simp [lines, lineEnds, ih]
  | one c r apart ih =>
    rw [lines_cons apart, lineEnds_cons apart]
    split
    · simp [ih]
    · obtain ⟨l, ls, hr⟩ := List.exists_cons_of_ne_nil (lines_ne_nil r)
      rw [hr] at ih ⊢
      exact ih

/-- A text without line ends is one line. -/
theorem lineEnds_eq_zero : lineEnds s = 0 ↔ '\n' ∉ s ∧ '\r' ∉ s := by
  induction s using line_induction with
  | nil => simp [lineEnds]
  | both r _ => simp [lineEnds]
  | one c r apart ih =>
    rw [lineEnds_cons apart]
    split
    · next ends => rcases isLineEnd_iff.1 ends with rfl | rfl <;> simp
    · next other =>
      rw [isLineEnd_iff, not_or] at other
      simp [ih, Ne.symm other.1, Ne.symm other.2]

theorem lines_eq_self (h : lineEnds s = 0) : lines s = [s] := by
  induction s using line_induction with
  | nil => rfl
  | both r _ => simp [lineEnds] at h
  | one c r apart ih =>
    rw [lineEnds_cons apart] at h
    rw [lines_cons apart]
    split at h
    · omega
    · next other => rw [if_neg other, ih h, lengthened]

/-- Without line feeds, every carriage return ends a line. -/
theorem lineEnds_eq_count (h : '\n' ∉ s) : lineEnds s = s.count '\r' := by
  induction s using line_induction with
  | nil => rfl
  | both r _ => simp at h
  | one c r apart ih =>
    rw [List.mem_cons, not_or] at h
    rw [lineEnds_cons apart, ih h.2, List.count_cons]
    by_cases hc : c = '\r'
    · simp [hc, isLineEnd]
    · simp [hc, Ne.symm h.1, isLineEnd]

/-! ## Texts one behind the other -/

/-- Line ends add up, unless one is made of two characters that meet. -/
theorem lineEnds_append (h : a.getLast? ≠ some '\r' ∨ b.head? ≠ some '\n') :
    lineEnds (a ++ b) = lineEnds a + lineEnds b := by
  induction a using line_induction with
  | nil => simp [lineEnds]
  | both r ih =>
    have rest : r.getLast? ≠ some '\r' ∨ b.head? ≠ some '\n' := by
      apply h.imp_left
      intro last hr
      simp [List.getLast?_cons, hr] at last
    simp only [List.cons_append, lineEnds, ih rest]
    omega
  | one c r apart ih =>
    have rest : r.getLast? ≠ some '\r' ∨ b.head? ≠ some '\n' := by
      apply h.imp_left
      intro last hr
      simp [List.getLast?_cons, hr] at last
    have apart' : IsApart c (r ++ b) := by
      rintro ⟨rfl, first⟩
      cases r with
      | nil => simp_all
      | cons d r => exact apart ⟨rfl, first⟩
    rw [List.cons_append, lineEnds_cons apart, lineEnds_cons apart', ih rest]
    split <;> omega

/-- Pieces that do not begin with a line feed meet in no line end. -/
theorem lineEnds_flatMap {f : α → List Char} (as : List α)
    (h : ∀ a ∈ as, (f a).head? ≠ some '\n' ∧ f a ≠ []) :
    lineEnds (as.flatMap f) = (as.map fun a => lineEnds (f a)).sum := by
  induction as with
  | nil => rfl
  | cons a as ih =>
    have rest := ih fun b hb => h b (List.mem_cons_of_mem a hb)
    have first : (as.flatMap f).head? ≠ some '\n' := by
      cases as with
      | nil => simp
      | cons b as =>
        obtain ⟨begins, full⟩ := h b (by simp)
        obtain ⟨c, l, hb⟩ := List.exists_cons_of_ne_nil full
        rw [hb] at begins
        simpa [hb] using begins
    rw [List.flatMap_cons, lineEnds_append (.inr first), rest, List.map_cons, List.sum_cons]

theorem lines_lineFeed (h : lineEnds a = 0) (b : List Char) :
    lines (a ++ '\n' :: b) = a :: lines b := by
  induction a with
  | nil =>
    have apart : IsApart '\n' b := by simp [IsApart]
    rw [List.nil_append, lines_cons apart]
    rfl
  | cons c a ih =>
    have none := lineEnds_eq_zero.1 h
    simp only [List.mem_cons, not_or] at none
    have other : isLineEnd c = false := by
      rw [Bool.eq_false_iff, ne_eq, isLineEnd_iff, not_or]
      exact ⟨Ne.symm none.1.1, Ne.symm none.2.1⟩
    rw [List.cons_append, lines_cons (isApart_of_other other _), other,
      ih (lineEnds_eq_zero.2 ⟨none.1.2, none.2.2⟩)]
    rfl

/-! ## Rows -/

/-- A text that ends with a line feed, which is a line end by itself. -/
def IsRow (s : List Char) : Prop := ∃ body, s = body ++ ['\n'] ∧ body.getLast? ≠ some '\r'

theorem lineEnds_row (h : body.getLast? ≠ some '\r') :
    lineEnds (body ++ ['\n']) = lineEnds body + 1 := by
  rw [lineEnds_append (.inl h)]
  rfl

theorem lineEnds_rows {rows : List (List Char)} (h : ∀ row ∈ rows, IsRow row) (b : List Char) :
    lineEnds (rows.flatten ++ b) = (rows.map lineEnds).sum + lineEnds b := by
  induction rows with
  | nil => simp
  | cons row rows ih =>
    obtain ⟨body, rfl, -⟩ := h row List.mem_cons_self
    have last : (body ++ ['\n']).getLast? ≠ some '\r' := by simp
    rw [List.flatten_cons, List.append_assoc, lineEnds_append (.inl last),
      ih fun r hr => h r (List.mem_cons_of_mem _ hr), List.map_cons, List.sum_cons, Nat.add_assoc]

/-- Rows that are one line each are the lines. -/
theorem lines_rows {rows : List (List Char)} (h : ∀ row ∈ rows, IsRow row)
    (one : ∀ row ∈ rows, lineEnds row = 1) (b : List Char) :
    lines (rows.flatten ++ b) = rows.map List.dropLast ++ lines b := by
  induction rows with
  | nil => simp
  | cons row rows ih =>
    obtain ⟨body, rfl, last⟩ := h row List.mem_cons_self
    have clean : lineEnds body = 0 := by
      have single := one _ List.mem_cons_self
      rw [lineEnds_row last] at single
      omega
    rw [List.flatten_cons, List.append_assoc, List.append_assoc, List.singleton_append,
      lines_lineFeed clean, ih (fun r hr => h r (List.mem_cons_of_mem _ hr))
        fun r hr => one r (List.mem_cons_of_mem _ hr)]
    simp

theorem lineEnds_pos (h : IsRow s) : 1 ≤ lineEnds s := by
  obtain ⟨body, rfl, last⟩ := h
  rw [lineEnds_row last]
  omega

/-- Rows with a line end each have one each if there are no more. -/
theorem lineEnds_eq_one {rows : List (List Char)} (h : ∀ row ∈ rows, IsRow row)
    (count : (rows.map lineEnds).sum = rows.length) : ∀ row ∈ rows, lineEnds row = 1 := by
  induction rows with
  | nil => simp
  | cons row rows ih =>
    have others : ∀ r ∈ rows, IsRow r := fun r hr => h r (List.mem_cons_of_mem _ hr)
    have least : rows.length ≤ (rows.map lineEnds).sum := by
      have bound : ∀ n ∈ rows.map lineEnds, 1 ≤ n := by
        intro n hn
        obtain ⟨r, hr, rfl⟩ := List.mem_map.1 hn
        exact lineEnds_pos (others r hr)
      simpa using List.length_le_sum_of_one_le _ bound
    have first := lineEnds_pos (h row List.mem_cons_self)
    rw [List.map_cons, List.sum_cons, List.length_cons] at count
    intro r hr
    rcases List.mem_cons.1 hr with rfl | later
    · omega
    · exact ih others (by omega) r later

/-- Rows are the lines exactly if there are as many line ends as rows. -/
theorem lines_rows_iff {rows : List (List Char)} (h : ∀ row ∈ rows, IsRow row)
    (rest : lineEnds b = 0) :
    lines (rows.flatten ++ b) = rows.map List.dropLast ++ [b] ↔
      (rows.map lineEnds).sum = rows.length := by
  constructor
  · intro same
    have count := congrArg List.length same
    rw [length_lines, lineEnds_rows h, rest] at count
    simpa using count
  · intro count
    rw [lines_rows h (lineEnds_eq_one h count), lines_eq_self rest]

end QueryGate.Text
