import QueryGate.Proofs.Literals
/-!
# Where blanking stands

A text can be blanked piece by piece, if it is known where blanking stands
behind each piece: in live SQL, or inside a literal that the piece leaves open.
-/

namespace QueryGate.Sql

/-- Where blanking stands behind a text. -/
def standing : Place → List Char → Place
  | p, [] => p
  | .live, c :: s =>
    match Quote.ofChar? c with
    | some q => standing (.inside q) s
    | none => standing .live s
  | .inside q, [c] => if c = q.char then .live else .inside q
  | .inside q, c :: d :: s =>
    if q.escapes ∧ c = '\\' then standing (.inside q) s
    else if c = q.char then
      if d = q.char then standing (.inside q) s else standing .live (d :: s)
    else standing (.inside q) (d :: s)

/-- A text that begins with something that no literal before it can be closed by
or escape. -/
structure Fresh (s : List Char) : Prop where
  mark : ∀ q : Quote, s.head? ≠ some q.char
  backslash : s.head? ≠ some '\\'

theorem length_blanked (p : Place) (s : List Char) : (blanked p s).length = s.length := by
  fun_induction blanked p s <;> simp_all

/-- What neither closes a literal nor escapes is blanked alone. -/
theorem blanked_content {q : Quote} {c : Char} (mark : c ≠ q.char) (escape : c ≠ '\\')
    (s : List Char) : blanked (.inside q) (c :: s) = true :: blanked (.inside q) s := by
  cases s with
  | nil => simp [blanked, mark]
  | cons d s => rw [blanked, if_neg fun h => escape h.2, if_neg mark]

/-- No mark is a backslash. -/
theorem Quote.not_escapes_mark (q : Quote) : ¬ (q.escapes ∧ q.char = '\\') :=
  fun h => Token.escapable q h.2

/-- A mark that no other follows closes the literal. -/
theorem blanked_mark {q : Quote} {s : List Char} (h : s.head? ≠ some q.char) :
    blanked (.inside q) (q.char :: s) = false :: blanked .live s := by
  cases s with
  | nil => simp [blanked]
  | cons d s =>
    have other : d ≠ q.char := fun same => h (congrArg some same)
    conv => lhs; rw [blanked, if_neg q.not_escapes_mark, if_pos rfl, if_neg other]

theorem blanked_append {p : Place} {s t : List Char} (ht : Fresh t) :
    blanked p (s ++ t) = blanked p s ++ blanked (standing p s) t := by
  fun_induction standing p s with
  | case1 p => cases p <;> rfl
  | case2 c s q hq ih => simp [blanked, hq, ih]
  | case3 c s hq ih => simp [blanked, hq, ih]
  | case4 q => simp [blanked_mark (ht.mark q), blanked]
  | case5 q c other =>
    cases t with
    | nil => simp [blanked]
    | cons d t =>
      have content : blanked (.inside q) (d :: t) = true :: blanked (.inside q) t :=
        blanked_content (fun same => ht.mark q (congrArg some same))
          (fun same => ht.backslash (congrArg some same)) t
      -- A backslash at the very end escapes a character that is blanked anyway.
      rw [List.singleton_append, blanked, content]
      simp [blanked, other, content]
  | case6 q c d s h ih =>
    have step (x : List Char) :
        blanked (.inside q) (c :: d :: x) = true :: true :: blanked (.inside q) x := by
      rw [blanked, if_pos h]
    rw [List.cons_append, List.cons_append, step, step, ih]
    rfl
  | case7 q s h ih =>
    have step (x : List Char) :
        blanked (.inside q) (q.char :: q.char :: x) = true :: true :: blanked (.inside q) x := by
      rw [blanked, if_neg h, if_pos rfl, if_pos rfl]
    rw [List.cons_append, List.cons_append, step, step, ih]
    rfl
  | case8 q d s hd h ih =>
    have step (x : List Char) :
        blanked (.inside q) (q.char :: d :: x) = false :: blanked .live (d :: x) :=
      blanked_mark fun same => hd (Option.some.inj same)
    rw [List.cons_append, List.cons_append, step, step, ← List.cons_append, ih]
    rfl
  | case9 q c d s h hc ih =>
    have step (x : List Char) :
        blanked (.inside q) (c :: d :: x) = true :: blanked (.inside q) (d :: x) := by
      rw [blanked, if_neg h, if_neg hc]
    rw [List.cons_append, List.cons_append, step, step, ← List.cons_append, ih]
    rfl

/-! ## Settled texts -/

/-- A text behind which blanking stands in live SQL, unless its last mark is
doubled. -/
def Settled (s : List Char) : Prop :=
  ∀ more : List Char, (∀ q : Quote, more.head? ≠ some q.char) →
    blanked .live (s ++ more) = blanked .live s ++ blanked .live more

theorem blanked_lead {s : List Char} (h : Unmarked s) (t : List Char) :
    blanked .live (s ++ t) = blanked .live s ++ blanked .live t := by
  have alone := blanked_live h []
  rw [List.append_nil] at alone
  rw [blanked_live h, alone]
  simp [blanked]

namespace Settled

theorem of_unmarked {s : List Char} (h : Unmarked s) : Settled s := fun more _ =>
  blanked_lead h more

theorem lead {s t : List Char} (hs : Unmarked s) (ht : Settled t) : Settled (s ++ t) := by
  intro more hm
  rw [List.append_assoc, blanked_lead hs, blanked_lead hs, ht more hm, List.append_assoc]

/-- Two texts with something between them that has no marks. -/
theorem join {s b t : List Char} (hs : Settled s) (hb : Unmarked b)
    (some : b ≠ []) (ht : Settled t) : Settled (s ++ (b ++ t)) := by
  intro more hm
  have next (t : List Char) (q : Quote) : (b ++ t).head? ≠ Option.some q.char := by
    obtain ⟨c, rest, rfl⟩ := List.exists_cons_of_ne_nil some
    intro same
    have mark : c = q.char := Option.some.inj same
    exact absurd (mark ▸ hb) (not_unmarked q rest)
  rw [List.append_assoc, List.append_assoc, hs _ (next _), hs _ (next _), blanked_lead hb,
    blanked_lead hb, ht more hm]
  simp only [List.append_assoc]

theorem append {s t : List Char} (hs : Settled s) (ht : Unmarked t) (some : t ≠ []) :
    Settled (s ++ t) := by
  simpa using hs.join ht some (.of_unmarked unmarked_nil)

theorem blanked_quoted {q : Quote} {inner more : List Char}
    (content : ∀ c ∈ inner, c ≠ q.char ∧ c ≠ '\\') (hm : more.head? ≠ some q.char) :
    blanked .live (q.char :: inner ++ q.char :: more) =
      false :: (List.replicate inner.length true ++ false :: blanked .live more) := by
  rw [List.cons_append, blanked_opening]
  congr 1
  induction inner with
  | nil => exact blanked_mark hm
  | cons c inner ih =>
    obtain ⟨⟨mark, escape⟩, others⟩ := List.forall_mem_cons.1 content
    rw [List.cons_append, blanked_content mark escape, ih others]
    rfl

theorem quoted (q : Quote) {inner : List Char} (content : ∀ c ∈ inner, c ≠ q.char ∧ c ≠ '\\') :
    Settled (q.char :: inner ++ [q.char]) := by
  intro more hm
  rw [List.append_assoc, List.singleton_append, blanked_quoted content (hm q),
    blanked_quoted content (by simp)]
  simp [blanked]

end Settled

/-! ## Stripping piece by piece -/

theorem stripLiterals_append {s t : List Char}
    (h : blanked .live (s ++ t) = blanked .live s ++ blanked .live t) :
    stripLiterals (s ++ t) = stripLiterals s ++ stripLiterals t := by
  rw [stripLiterals_eq, h, cover_append (length_blanked _ _), ← stripLiterals_eq,
    ← stripLiterals_eq]

theorem stripLiterals_unmarked {s : List Char} (h : Unmarked s) : stripLiterals s = s := by
  rw [stripLiterals_eq]
  simpa [cover, blanked] using cover_live h []

theorem stripLiterals_fresh (s : List Char) {t : List Char} (ht : Fresh t) :
    stripLiterals (s ++ t) = stripLiterals s ++ cover (blanked (standing .live s) t) t := by
  rw [stripLiterals_eq, blanked_append ht, cover_append (length_blanked _ _), ← stripLiterals_eq]

theorem blanked_within {q : Quote} {s : List Char} (h : ∀ c ∈ s, c ≠ q.char ∧ c ≠ '\\') :
    blanked (.inside q) s = List.replicate s.length true := by
  induction s with
  | nil => rfl
  | cons c s ih =>
    obtain ⟨⟨mark, escape⟩, others⟩ := List.forall_mem_cons.1 h
    rw [blanked_content mark escape, ih others]
    rfl

/-- Inside a literal a text without marks is nothing but spaces. -/
theorem space_of_mem_cover {s : List Char} {c : Char}
    (h : c ∈ cover (List.replicate s.length true) s) : c = ' ' := by
  induction s with
  | nil => cases h
  | cons d s ih =>
    rw [List.length_cons, List.replicate_succ, cover, if_pos rfl] at h
    obtain first | later := List.mem_append.1 h
    · obtain ⟨_, -, rfl⟩ := List.mem_map.1 first
      rfl
    · exact ih later

end QueryGate.Sql
