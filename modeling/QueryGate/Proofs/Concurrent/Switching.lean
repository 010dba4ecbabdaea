import Mathlib.Data.List.DropRight
import QueryGate.Proofs.Concurrent.Serving
import QueryGate.Proofs.Search.Parts
import QueryGate.Proofs.Stacking
/-!
# Texts that may change the schema

Only `USE` changes the default schema of a connection. A text may have one at
its beginning, behind a semicolon, or hidden in a comment; nothing that is
fetched for a call has any of that.
-/

namespace QueryGate

open Sql (stripLiterals Settled Unmarked Quote)
open Text (trim trimStart trimEnd isBlank allBlank upper beginsWith)
open Gate (Kind)
open Gate.Lexical (isSingle isSingle_iff isSingle_append)

/-- Whether a text may have a `USE` in it, as far as can be told from what is
outside its literals. -/
inductive MaySwitch (sql : List Char) : Prop where
  | begins : beginsWith "USE".toList (upper (trim sql)) → MaySwitch sql
  | stacked : isSingle (stripLiterals (trim sql)) = false → MaySwitch sql
  | comment {mark : String} : mark ∈ Sql.Token.commentMarks →
      mark.toList <:+: stripLiterals (trim sql) → MaySwitch sql

/-! ## Accepted texts -/

theorem not_begins_of_first {c : Char} {s : List Char} (h : c ≠ 'U') :
    ¬ beginsWith "USE".toList (c :: s) := by
  rw [Text.beginsWith_iff]
  exact fun front => h (List.cons_prefix_cons.1 front).1.symm

theorem not_begins_of_readOnly {s : List Char} (h : Gate.Lexical.beginsReadOnly s) :
    ¬ beginsWith "USE".toList (upper s) := by
  obtain ⟨w, hw, front⟩ := List.any_eq_true.1 h
  have other : ∀ w ∈ Gate.Lexical.readOnlyWords, ∃ c rest, w.toList = c :: rest ∧ c ≠ 'U' := by
    simp [Gate.Lexical.readOnlyWords]
  obtain ⟨c, rest, hc, ne⟩ := other w hw
  obtain ⟨more, same⟩ := Text.beginsWith_iff.1 front
  rw [← same, hc]
  exact not_begins_of_first ne

theorem not_comment_of_check {sql : List Char} {kind : Kind} (h : Gate.check sql = .ok kind)
    {mark : String} (known : mark ∈ Sql.Token.commentMarks) :
    ¬ mark.toList <:+: stripLiterals (trim sql) := by
  rintro ⟨pre, post, seen⟩
  obtain ⟨-, -, quiet, -⟩ := Gate.Lexical.check_eq_ok_iff.1 (Gate.check_eq_ok_iff.1 h).2
  have rule : Gate.Lexical.Rule.mark mark ∈ Gate.Lexical.rules :=
    List.mem_flatten_of_mem (l := Sql.Token.commentMarks.map .mark) (by simp [Sql.Token.commentMarks])
      (List.mem_map_of_mem known)
  refine quiet _ rule ?_
  rw [← seen, Gate.Lexical.Rule.mark, Gate.Lexical.Rule.fires, List.any_cons,
    Text.Pattern.occurs_word]
  rfl

theorem not_maySwitch_of_check {sql : List Char} {kind : Kind} (h : Gate.check sql = .ok kind) :
    ¬ MaySwitch sql := by
  obtain ⟨-, single, -, readOnly⟩ := Gate.Lexical.check_eq_ok_iff.1 (Gate.check_eq_ok_iff.1 h).2
  rintro (begins | stacked | ⟨known, seen⟩)
  · exact not_begins_of_readOnly readOnly begins
  · rw [single] at stacked
    cases stacked
  · exact not_comment_of_check h known seen

/-! ## Texts to be explained -/

theorem trimEnd_trim (s : List Char) : trimEnd (trim s) = trim s := by
  rw [trim, trimEnd, trimEnd, List.reverse_reverse, List.dropWhile_idempotent]

theorem trim_lead {lead s : List Char} (front : trimStart lead = lead) (word : ¬ allBlank lead)
    (filled : ¬ allBlank (trim s)) : trim (lead ++ trim s) = lead ++ trim s := by
  have start : trimStart (lead ++ trim s) = lead ++ trim s := by
    rw [Text.trimStart_append word, front]
  rw [trim, start, Text.trimEnd_append filled, trimEnd_trim]

/-- What a text in front does not begin, it is not in. -/
theorem isInfix_of_append {lead t mark : List Char} (h : mark <:+: lead ++ t)
    (first : ∀ c ∈ mark.head?, c ∉ lead) : mark <:+: t := by
  induction lead with
  | nil => exact h
  | cons c lead ih =>
    obtain front | inside := List.infix_cons_iff.1 h
    · cases mark with
      | nil => exact List.nil_infix
      | cons d mark =>
        obtain rfl := (List.cons_prefix_cons.1 front).1
        exact absurd List.mem_cons_self (first d rfl)
    · exact ih inside fun d hd hmem => first d hd (List.mem_cons_of_mem _ hmem)

theorem trim_explained {sql : List Char} (filled : trim sql ≠ []) :
    trim (Tool.explained sql) = Tool.explained sql := by
  refine trim_lead (by decide) (by decide) ?_
  rwa [← Text.trimEnd_eq_nil, trimEnd_trim]

theorem stripLiterals_explained (sql : List Char) :
    stripLiterals (Tool.explained sql) = "EXPLAIN ".toList ++ stripLiterals (trim sql) := by
  have plain : Unmarked "EXPLAIN ".toList := by decide
  have apart := Sql.stripLiterals_append (Sql.blanked_lead plain (trim sql))
  rwa [Sql.stripLiterals_unmarked plain] at apart

theorem isSingle_explained {sql : List Char} (single : isSingle (stripLiterals (trim sql))) :
    isSingle (stripLiterals (Tool.explained sql)) := by
  have lead : isSingle "EXPLAIN ".toList ∧ ';' ∉ "EXPLAIN ".toList := by decide
  rw [stripLiterals_explained, isSingle_append]
  exact ⟨lead.1, single, fun none => absurd none lead.2⟩

theorem not_maySwitch_of_explained {sql : List Char} {kind : Kind}
    (h : Gate.check sql = .ok kind) : ¬ MaySwitch (Tool.explained sql) := by
  obtain ⟨some, single, -, -⟩ := Gate.Lexical.check_eq_ok_iff.1 (Gate.check_eq_ok_iff.1 h).2
  have whole := trim_explained some
  rintro (begins | stacked | ⟨known, seen⟩)
  · rw [whole] at begins
    exact not_begins_of_first (c := 'E') (by decide) begins
  · rw [whole, isSingle_explained single] at stacked
    cases stacked
  · rw [whole, stripLiterals_explained] at seen
    refine not_comment_of_check h known (isInfix_of_append seen ?_)
    have marks : ∀ mark ∈ Sql.Token.commentMarks, ∀ c ∈ mark.toList.head?, c ∉ "EXPLAIN ".toList := by
      simp [Sql.Token.commentMarks]
    exact marks _ known

/-! ## Statements of the server's own -/

/-- A text without semicolons and without the characters that comments begin
with. -/
def Inert (s : List Char) : Prop := ∀ c ∈ s, c ∉ [';', '-', '/', '#']

instance : DecidablePred Inert := fun s => List.decidableBAll _ s

theorem not_maySwitch_of_inert {c d : Char} {s : List Char} (hc : isBlank c = false)
    (hd : isBlank d = false) (first : ¬ beginsWith "USE".toList (upper (c :: s ++ [d])))
    (inert : Inert (stripLiterals (c :: s ++ [d]))) : ¬ MaySwitch (c :: s ++ [d]) := by
  have whole := Text.trim_of_ends hc hd s
  rintro (begins | stacked | ⟨known, seen⟩)
  · rw [whole] at begins
    exact first begins
  · rw [whole] at stacked
    have single : isSingle (stripLiterals (c :: s ++ [d])) := isSingle_iff.2 fun pre post same =>
      absurd (by simp) (inert ';' (same ▸ List.mem_append_right _ List.mem_cons_self))
    rw [single] at stacked
    cases stacked
  · rw [whole] at seen
    have marks : ∀ mark ∈ Sql.Token.commentMarks, ∃ c ∈ mark.toList, c ∈ [';', '-', '/', '#'] := by
      simp [Sql.Token.commentMarks]
    obtain ⟨c, hc, bad⟩ := marks _ known
    exact inert c (seen.subset hc) bad

/-! ### Quoted names -/

open Sql.Identifier (Quoted content_of_check settled_of_quoted)

/-- Of a quoted name nothing but its marks is outside of literals. -/
theorem inert_quoted {name quoted : List Char} (h : Quoted name quoted) :
    Inert (stripLiterals quoted) := by
  obtain ⟨hc, rfl⟩ := h
  have blanked := @Settled.blanked_quoted _ _ [] (content_of_check hc) nofun
  have stripped : stripLiterals ('\x60' :: name ++ ['\x60']) =
      '\x60' :: (Sql.cover (List.replicate name.length true) name ++ ['\x60']) := by
    rw [Sql.stripLiterals_eq]
    change Sql.cover (Sql.blanked .live (Quote.backtick.char :: name ++ [Quote.backtick.char])) _ = _
    rw [blanked, List.cons_append, Sql.cover, Sql.cover_append (by simp)]
    rfl
  rw [stripped]
  intro c hmem
  obtain rfl | inside := List.mem_cons.1 hmem
  · decide
  obtain inside | last := List.mem_append.1 inside
  · rw [Sql.space_of_mem_cover inside]
    decide
  · rw [List.mem_singleton.1 last]
    decide

theorem inert_lead {words s : List Char} (unmarked : Unmarked words) (inert : Inert words)
    (h : Inert (stripLiterals s)) : Inert (stripLiterals (words ++ s)) := by
  rw [Sql.stripLiterals_append (Sql.blanked_lead unmarked _), Sql.stripLiterals_unmarked unmarked]
  intro c hc
  obtain first | later := List.mem_append.1 hc
  · exact inert c first
  · exact h c later

theorem inert_qualified {database table d t : List Char} (hd : Quoted database d)
    (ht : Quoted table t) : Inert (stripLiterals (d ++ '.' :: t)) := by
  have split : stripLiterals (d ++ '.' :: t) = stripLiterals d ++ stripLiterals ('.' :: t) :=
    Sql.stripLiterals_append (settled_of_quoted hd _ fun q => by cases q <;> simp [Quote.char])
  rw [split]
  intro c hc
  obtain first | later := List.mem_append.1 hc
  · exact inert_quoted hd c first
  · exact @inert_lead ['.'] t (by decide) (by decide) (inert_quoted ht) c later

/-- A statement that reads and ends with a quoted name. -/
theorem not_maySwitch_of_lead {words s : List Char} (reads : words.head? = some 'S')
    (unmarked : Unmarked words) (inert : Inert words) (h : Inert (stripLiterals (s ++ ['\x60']))) :
    ¬ MaySwitch (words ++ (s ++ ['\x60'])) := by
  obtain ⟨w, rfl⟩ := List.head?_eq_some_iff.1 reads
  have same : 'S' :: w ++ (s ++ ['\x60']) = 'S' :: (w ++ s) ++ ['\x60'] := by simp
  have whole := inert_lead unmarked inert h
  rw [same] at whole ⊢
  exact not_maySwitch_of_inert (by decide) (by decide) (not_begins_of_first (c := 'S') (by decide))
    whole

/-- What is fetched for a call changes no schema. -/
theorem not_maySwitch_of_fetched {sql : List Char} (h : Tool.Fetched sql) : ¬ MaySwitch sql := by
  have named {words name quoted : List Char} (reads : words.head? = some 'S')
      (unmarked : Unmarked words) (inert : Inert words) (hq : Quoted name quoted) :
      ¬ MaySwitch (words ++ quoted) := by
    have := inert_quoted hq
    obtain ⟨-, rfl⟩ := hq
    exact not_maySwitch_of_lead reads unmarked inert this
  have qualified {words database table d t : List Char} (reads : words.head? = some 'S')
      (unmarked : Unmarked words) (inert : Inert words) (hd : Quoted database d)
      (ht : Quoted table t) : ¬ MaySwitch (words ++ (d ++ '.' :: t)) := by
    have whole := inert_qualified hd ht
    obtain ⟨-, rfl⟩ := ht
    have same : d ++ '.' :: ('\x60' :: table ++ ['\x60']) = (d ++ '.' :: '\x60' :: table) ++ ['\x60'] := by
      simp
    rw [same] at whole ⊢
    exact not_maySwitch_of_lead reads unmarked inert whole
  cases h with
  | accepted hk => exact not_maySwitch_of_check hk
  | plan hk => exact not_maySwitch_of_explained hk
  | databases =>
    exact not_maySwitch_of_inert (c := 'S') (d := 'S') (s := "HOW DATABASE".toList) (by decide)
      (by decide) (not_begins_of_first (c := 'S') (by decide)) (by decide)
  | tables h =>
    obtain ⟨d, hd, rfl⟩ := Tool.template_ok h
    exact named (by decide) (by decide) (by decide) hd
  | columns h | indexes h | definition h =>
    obtain ⟨d, t, hd, ht, rfl⟩ := Tool.qualifiedTemplate_ok h
    exact qualified (by decide) (by decide) (by decide) hd ht

end QueryGate
