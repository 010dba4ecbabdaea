import QueryGate.Text.Blank
/-!
# Trimming

What trimming takes off are blanks and what it leaves has none at its ends, so
blanks between two texts stay where they are.
-/

namespace QueryGate.Text

theorem allBlank_iff {s : List Char} : allBlank s ↔ ∀ c ∈ s, isBlank c := List.all_eq_true

theorem allBlank_append {s t : List Char} : allBlank (s ++ t) ↔ allBlank s ∧ allBlank t := by
  simp [allBlank]

/-! ## Blanks in front -/

theorem exists_trimStart (s : List Char) : ∃ lead, s = lead ++ trimStart s ∧ allBlank lead :=
  ⟨s.takeWhile isBlank, List.takeWhile_append_dropWhile.symm, List.all_takeWhile⟩

theorem head_trimStart (s : List Char) : ∀ c ∈ (trimStart s).head?, isBlank c = false := by
  intro c hc
  have := List.head?_dropWhile_not isBlank s
  rw [trimStart] at hc
  rw [hc] at this
  simpa using this

theorem allBlank_trimStart {s : List Char} : allBlank (trimStart s) ↔ allBlank s := by
  obtain ⟨lead, same, blank⟩ := exists_trimStart s
  have whole := allBlank_append (s := lead) (t := trimStart s)
  rw [← same] at whole
  simp [whole, blank]

theorem trimStart_eq_nil {s : List Char} : trimStart s = [] ↔ allBlank s := by
  rw [← allBlank_trimStart]
  constructor
  · intro h
    rw [h]
    rfl
  · intro h
    cases hs : trimStart s with
    | nil => rfl
    | cons c t =>
      have first := head_trimStart s c (by rw [hs]; rfl)
      rw [hs, allBlank_iff] at h
      rw [h c (by simp)] at first
      cases first

theorem trimStart_append {s : List Char} (h : ¬ allBlank s) (t : List Char) :
    trimStart (s ++ t) = trimStart s ++ t := by
  have some : ¬ (s.dropWhile isBlank).isEmpty := by
    rw [List.isEmpty_iff]
    exact mt trimStart_eq_nil.1 h
  rw [trimStart, List.dropWhile_append, if_neg some]
  rfl

/-! ## Blanks behind -/

theorem allBlank_reverse {s : List Char} : allBlank s.reverse ↔ allBlank s := by
  simp [allBlank]

theorem trimEnd_eq_nil {s : List Char} : trimEnd s = [] ↔ allBlank s := by
  rw [trimEnd, List.reverse_eq_nil_iff, ← allBlank_reverse]
  exact trimStart_eq_nil

theorem trimEnd_append {t : List Char} (h : ¬ allBlank t) (s : List Char) :
    trimEnd (s ++ t) = s ++ trimEnd t := by
  have back : ¬ allBlank t.reverse := mt allBlank_reverse.1 h
  have := trimStart_append back s.reverse
  rw [trimStart, trimStart] at this
  rw [trimEnd, trimEnd, List.reverse_append, this, List.reverse_append, List.reverse_reverse]

theorem exists_trimEnd (s : List Char) : ∃ tail, s = trimEnd s ++ tail ∧ allBlank tail := by
  obtain ⟨lead, same, blank⟩ := exists_trimStart s.reverse
  refine ⟨lead.reverse, ?_, allBlank_reverse.2 blank⟩
  rw [trimEnd, ← List.reverse_append]
  exact List.reverse_eq_iff.1 same

theorem trimEnd_cons {c : Char} (h : isBlank c = false) (s : List Char) :
    trimEnd (c :: s) = c :: trimEnd s := by
  rw [trimEnd, trimEnd, List.reverse_cons, List.dropWhile_append]
  split
  · next none => simp [List.isEmpty_iff.1 none, h]
  · simp

theorem allBlank_trimEnd {s : List Char} : allBlank (trimEnd s) ↔ allBlank s := by
  obtain ⟨tail, same, blank⟩ := exists_trimEnd s
  have whole := allBlank_append (s := trimEnd s) (t := tail)
  rw [← same] at whole
  simp [whole, blank]

theorem last_trimEnd {s t : List Char} {c : Char} (h : trimEnd s = t ++ [c]) :
    isBlank c = false := by
  refine head_trimStart s.reverse c ?_
  have := congrArg List.reverse h
  rw [trimEnd, List.reverse_reverse, List.reverse_append] at this
  rw [trimStart, this]
  rfl

/-! ## Both -/

theorem trim_eq_nil {s : List Char} : trim s = [] ↔ allBlank s :=
  trimEnd_eq_nil.trans allBlank_trimStart

/-- Only the outer ends are trimmed of two texts with a character between them
that is no blank. -/
theorem trim_between {s : List Char} {c : Char} (hs : ¬ allBlank s) (hc : isBlank c = false)
    (t : List Char) : trim (s ++ c :: t) = trimStart s ++ c :: trimEnd t := by
  have middle : ¬ allBlank (c :: t) := by simp [allBlank, hc]
  rw [trim, trimStart_append hs, trimEnd_append middle, trimEnd_cons hc]

/-- What trimming the front leaves ends with blanks. -/
theorem exists_trim_tail (s : List Char) : ∃ tail, trimStart s = trim s ++ tail ∧ allBlank tail :=
  exists_trimEnd (trimStart s)

/-- What trimming the end leaves begins with blanks. -/
theorem exists_trim_lead {s : List Char} (h : ¬ allBlank s) :
    ∃ lead, trimEnd s = lead ++ trim s ∧ allBlank lead := by
  obtain ⟨lead, same, blank⟩ := exists_trimStart s
  refine ⟨lead, ?_, blank⟩
  rw [trim, ← trimEnd_append (mt allBlank_trimStart.1 h), ← same]

/-- A text with no blank at either end stays as it is. -/
theorem trim_of_ends {c d : Char} (hc : isBlank c = false) (hd : isBlank d = false)
    (s : List Char) : trim (c :: s ++ [d]) = c :: s ++ [d] := by
  have front : trimStart (c :: s ++ [d]) = c :: s ++ [d] := by simp [trimStart, hc]
  have last : ¬ allBlank [d] := by simp [allBlank, hd]
  rw [trim, front, trimEnd_append last, trimEnd_cons hd]
  rfl

theorem head_trim (s : List Char) : ∀ c ∈ (trim s).head?, isBlank c = false := by
  intro c hc
  obtain ⟨tail, same, -⟩ := exists_trim_tail s
  obtain ⟨t, ht⟩ := List.head?_eq_some_iff.1 hc
  refine head_trimStart s c ?_
  rw [same, ht]
  rfl

/-! ## Blanks around a text -/

theorem trimStart_blank {lead : List Char} (h : allBlank lead) (s : List Char) :
    trimStart (lead ++ s) = trimStart s :=
  List.dropWhile_append_of_pos (allBlank_iff.1 h)

theorem trimEnd_blank {tail : List Char} (h : allBlank tail) (s : List Char) :
    trimEnd (s ++ tail) = trimEnd s := by
  have := trimStart_blank (allBlank_reverse.2 h) s.reverse
  rw [trimStart, trimStart] at this
  rw [trimEnd, trimEnd, List.reverse_append, this]

/-- Blanks around a text are trimmed off with its own. -/
theorem trim_blank {lead tail : List Char} (hl : allBlank lead) (ht : allBlank tail)
    (s : List Char) : trim (lead ++ (s ++ tail)) = trim s := by
  rw [trim, trimStart_blank hl]
  by_cases blank : allBlank s
  · rw [trimStart_eq_nil.2 (allBlank_append.2 ⟨blank, ht⟩), trim_eq_nil.2 blank]
    rfl
  · rw [trimStart_append blank, trimEnd_blank ht, trim]

/-- Only the outer ends are trimmed of what stands around a character that is no
blank. -/
theorem trim_around {c : Char} (hc : isBlank c = false) (s t : List Char) :
    trim (s ++ c :: t) = trimStart s ++ c :: trimEnd t := by
  by_cases blank : allBlank s
  · have front : trimStart (c :: t) = c :: t := by simp [trimStart, hc]
    rw [trim, trimStart_blank blank, front, trimEnd_cons hc, trimStart_eq_nil.2 blank]
    rfl
  · exact trim_between blank hc t

/-- Of a text that begins with no blank only the end is trimmed. -/
theorem trim_of_head {s : List Char} (h : ∀ c ∈ s.head?, isBlank c = false) :
    trim s = trimEnd s := by
  rw [trim]
  congr 1
  cases s with
  | nil => rfl
  | cons c s => simp [trimStart, h c rfl]

/-- A text without blanks stays as it is. -/
theorem trim_of_no_blank {s : List Char} (h : ∀ c ∈ s, isBlank c = false) : trim s = s := by
  rw [trim_of_head fun c hc => h c (List.mem_of_mem_head? hc)]
  obtain ⟨tail, same, blank⟩ := exists_trimEnd s
  have none : tail = [] := by
    refine List.eq_nil_iff_forall_not_mem.2 fun c hc => ?_
    have seen := h c (same ▸ List.mem_append_right _ hc)
    rw [allBlank_iff.1 blank c hc] at seen
    cases seen
  rw [none, List.append_nil] at same
  exact same.symm

end QueryGate.Text
