import Mathlib.Data.List.Find
import QueryGate.Proofs.Stacking
import QueryGate.Proofs.Stripping
import QueryGate.Proofs.Text.Match
/-!
# What literals contain

The lexical layer looks at some of a text as it is and at some of it without its
literals. What literals contain makes no difference to its verdict all the same:
patterns that look at the text as it is stop at the first mark, and blanks that
an open literal has at its end are of no use to the others.
-/

namespace QueryGate.Sql

open Text (allBlank isBlank trim trimStart trimEnd)

/-- A text without marks, or one up to the first of them and the rest. -/
theorem unmarked_or_mark (s : List Char) :
    Unmarked s ∨ ∃ front q more, s = front ++ Quote.char q :: more ∧ Unmarked front := by
  induction s with
  | nil => exact .inl unmarked_nil
  | cons c s ih =>
    cases hc : Quote.ofChar? c with
    | some q => exact .inr ⟨[], q, s, by rw [Quote.ofChar?_eq_some.1 hc]; rfl, unmarked_nil⟩
    | none =>
      obtain unmarked | ⟨front, q, more, rfl, unmarked⟩ := ih
      · exact .inl (List.forall_mem_cons.2 ⟨hc, unmarked⟩)
      · exact .inr ⟨c :: front, q, more, rfl, List.forall_mem_cons.2 ⟨hc, unmarked⟩⟩

theorem stripLiterals_mark {front : List Char} (h : Unmarked front) (q : Quote)
    (more : List Char) :
    ∃ more', stripLiterals (front ++ q.char :: more) = front ++ q.char :: more' := by
  refine ⟨cover (blanked (.inside q) more) more, ?_⟩
  rw [stripLiterals_eq, cover_live h, blanked_opening, cover]
  rfl

theorem allBlank_cover (hs : List Bool) {s : List Char} (h : allBlank s) :
    allBlank (cover hs s) := by
  fun_induction cover hs s with
  | case1 b hs c s ih =>
    rw [allBlank, List.all_cons, Bool.and_eq_true] at h
    rw [Text.allBlank_append]
    refine ⟨?_, ih h.2⟩
    split
    · refine Text.allBlank_iff.2 fun d hd => ?_
      obtain ⟨_, -, rfl⟩ := List.mem_map.1 hd
      rfl
    · simpa [allBlank] using h.1
  | case2 => rfl

theorem fresh_blank {s : List Char} (h : allBlank s) : Fresh s := by
  cases s with
  | nil => exact ⟨by simp, by simp⟩
  | cons c s =>
    have blank := Text.allBlank_iff.1 h c (by simp)
    constructor
    · rintro q same
      obtain rfl := Option.some.inj same
      cases q <;> cases blank
    · rintro same
      obtain rfl := Option.some.inj same
      cases blank

/-- Blanks behind a text are blanks behind what is stripped of it, be they live
or inside a literal that the text leaves open. -/
theorem stripLiterals_tail {tail : List Char} (h : allBlank tail) (s : List Char) :
    ∃ tail', allBlank tail' ∧ stripLiterals (s ++ tail) = stripLiterals s ++ tail' :=
  ⟨_, allBlank_cover _ h, stripLiterals_fresh s (fresh_blank h)⟩

/-- Trimming before stripping and after it. -/
theorem trim_stripLiterals (s : List Char) :
    trim (stripLiterals s) = trimEnd (stripLiterals (trim s)) := by
  obtain ⟨lead, front, hl⟩ := Text.exists_trimStart s
  obtain ⟨tail, back, ht⟩ := Text.exists_trim_tail s
  obtain ⟨tail', ht', stripped⟩ := stripLiterals_tail ht (trim s)
  have whole : stripLiterals s = lead ++ (stripLiterals (trim s) ++ tail') := by
    rw [← stripped, ← back]
    conv => lhs; rw [front]
    rw [stripLiterals_append (blanked_lead (Gate.unmarked_blank hl) _),
      stripLiterals_unmarked (Gate.unmarked_blank hl)]
  rw [whole, Text.trim_blank hl ht', Text.trim_of_head]
  rw [stripLiterals_head]
  exact Text.head_trim s

/-- The two copies without literals differ by blanks at the end. -/
theorem stripLiterals_trim (s : List Char) :
    ∃ tail, allBlank tail ∧
      stripLiterals (trim s) = stripLiterals (trim (stripLiterals s)) ++ tail := by
  obtain ⟨tail, same, blank⟩ := Text.exists_trimEnd (stripLiterals (trim s))
  obtain ⟨tail', blank', stripped⟩ := stripLiterals_tail blank (trimEnd (stripLiterals (trim s)))
  refine ⟨tail', blank', ?_⟩
  rw [trim_stripLiterals, ← stripped, ← same, stripLiterals_twice]

end QueryGate.Sql

namespace QueryGate.Gate.Lexical

open Sql (stripLiterals Quote Unmarked)
open Text (allBlank trim)

/-! ## Verdicts -/

/-- The error without what it quotes of the text. -/
def unlabelled : Error → Error
  | .blockedPattern reason _ => .blockedPattern reason ""
  | e => e

/-- Whether a text passes, and if not, the kind of its error and the reason. -/
def verdict (text : List Char) : Except Error Unit := (check text).mapError unlabelled

theorem verdict_eq_ok {text : List Char} : verdict text = .ok () ↔ check text = .ok () := by
  unfold verdict
  cases check text with
  | ok => simp [Except.mapError]
  | error => simp [Except.mapError]

/-- What the verdict depends on. -/
theorem verdict_congr {s t : List Char} (empty : (trim s).isEmpty = (trim t).isEmpty)
    (single : isSingle (stripLiterals (trim s)) = isSingle (stripLiterals (trim t)))
    (fires : ∀ r ∈ rules, r.fires (trim s) (stripLiterals (trim s)) =
      r.fires (trim t) (stripLiterals (trim t)))
    (begins : beginsReadOnly (trim s) = beginsReadOnly (trim t)) : verdict s = verdict t := by
  have first : rules.find? (·.fires (trim s) (stripLiterals (trim s))) =
      rules.find? (·.fires (trim t) (stripLiterals (trim t))) :=
    List.find?_congr fires
  unfold verdict check
  dsimp only
  rw [empty, single, first, begins]
  split
  · rfl
  split
  · rfl
  split
  · rfl
  split <;> rfl

/-! ## Rules -/

/-- No rule that looks at the text as it is goes past a mark. -/
theorem takes_mark (q : Quote) : ∀ r ∈ rules, r.reach = .start →
    ∀ p ∈ r.patterns, ∀ piece ∈ p, piece.takes q.char = false := by
  cases q <;> decide +kernel

/-- All rules that look at the copy without literals end in a character that is
no blank. -/
theorem solid_of_anywhere :
    ∀ r ∈ rules, r.reach = .anywhere → ∀ p ∈ r.patterns, p.solid := by
  decide +kernel

theorem fires_congr {r : Rule} (h : r ∈ rules) {front more more' stripped tail : List Char}
    {q : Quote} (blank : allBlank tail) :
    r.fires (front ++ q.char :: more) (stripped ++ tail) =
      r.fires (front ++ q.char :: more') stripped := by
  have word (t : List Char) : (q.char :: t).head?.any Text.isWordChar = false := by cases q <;> rfl
  unfold Rule.fires
  rw [Bool.eq_iff_iff, List.any_eq_true, List.any_eq_true]
  refine exists_congr fun p => and_congr_right fun hp => ?_
  cases hr : r.reach with
  | start =>
    have blind (t : List Char) := Text.Pattern.blind_of_takes (takes_mark q r h hr p hp) t
    dsimp only
    rw [(blind more).matchesStart (word more), (blind more').matchesStart (word more')]
  | anywhere =>
    dsimp only
    rw [Text.Pattern.occurs_append_blank (solid_of_anywhere r h hr p hp) blank]

theorem isSingle_append_blank {tail : List Char} (h : allBlank tail) (s : List Char) :
    isSingle (s ++ tail) = isSingle s := by
  have single : isSingle tail := isSingle_iff.2 fun pre post same => by
    rw [same, Text.allBlank_append] at h
    exact absurd h.2 (by simp [allBlank, Text.isBlank])
  rw [Bool.eq_iff_iff, isSingle_append]
  exact ⟨And.left, fun hs => ⟨hs, single, fun _ => h⟩⟩

theorem beginsReadOnly_mark (q : Quote) (front more more' : List Char) :
    beginsReadOnly (front ++ q.char :: more) = beginsReadOnly (front ++ q.char :: more') := by
  have mark : Text.upperChar q.char = [q.char] := by cases q <;> rfl
  have absent : ∀ w ∈ readOnlyWords, q.char ∉ w.toList := by cases q <;> decide
  have front_only (more : List Char) (w : String) (hw : w ∈ readOnlyWords) :
      Text.beginsWith w.toList (Text.upper (front ++ q.char :: more)) ↔
        w.toList <+: Text.upper front := by
    rw [Text.beginsWith_iff, Text.upper_append]
    refine Text.prefix_append_iff fun c hc => ?_
    rw [Text.upper, List.flatMap_cons, mark] at hc
    obtain rfl := Option.some.inj hc
    exact absent w hw
  unfold beginsReadOnly
  rw [Bool.eq_iff_iff, List.any_eq_true, List.any_eq_true]
  exact exists_congr fun w => and_congr_right fun hw =>
    (front_only more w hw).trans (front_only more' w hw).symm

/-! ## A text and its stripped copy -/

theorem verdict_stripLiterals (s : List Char) : verdict (stripLiterals s) = verdict s := by
  obtain unmarked | ⟨front, q, more, rfl, unmarked⟩ := Sql.unmarked_or_mark s
  · rw [Sql.stripLiterals_unmarked unmarked]
  · obtain ⟨more', stripped⟩ := Sql.stripLiterals_mark unmarked q more
    obtain ⟨tail, blank, copies⟩ := Sql.stripLiterals_trim (front ++ q.char :: more)
    have visible : Text.isBlank q.char = false := by cases q <;> rfl
    have own := Text.trim_around visible front more
    have other : trim (stripLiterals (front ++ q.char :: more)) =
        Text.trimStart front ++ q.char :: Text.trimEnd more' := by
      rw [stripped, Text.trim_around visible]
    refine (verdict_congr ?_ ?_ ?_ ?_).symm
    · rw [own, other]
      cases Text.trimStart front <;> rfl
    · rw [copies, isSingle_append_blank blank]
    · intro r hr
      rw [copies, own, other]
      exact fires_congr hr blank
    · rw [own, other]
      exact beginsReadOnly_mark q _ _ _

/-- Texts that differ in what their literals contain are accepted or refused
alike, and refused for the same reason; and a text passes if its stripped copy
does. -/
theorem contents_ignored (s : List Char) :
    (∀ other, stripLiterals other = stripLiterals s → verdict other = verdict s) ∧
      (check s = .ok () ↔ check (stripLiterals s) = .ok ()) := by
  constructor
  · intro other same
    rw [← verdict_stripLiterals other, same, verdict_stripLiterals]
  · rw [← verdict_eq_ok, ← verdict_eq_ok, verdict_stripLiterals]

/-- Blanks at the end of an open literal are trimmed off, or are part of it. -/
theorem contents_ignored_open :
    stripLiterals "SELECT 'DROP;--  ".toList = stripLiterals "SELECT '         ".toList ∧
      verdict "SELECT 'DROP;--  ".toList = verdict "SELECT '         ".toList :=
  have same : stripLiterals "SELECT 'DROP;--  ".toList =
      stripLiterals "SELECT '         ".toList := by decide +kernel
  ⟨same, (contents_ignored _).1 _ same⟩

end QueryGate.Gate.Lexical
