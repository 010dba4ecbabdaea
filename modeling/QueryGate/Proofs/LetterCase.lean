import QueryGate.Gate.Fragment
import QueryGate.Proofs.Contents
import QueryGate.Proofs.Result
import QueryGate.Proofs.Text.Case
/-!
# Letter case and the verdicts

Whether letters are small or capital makes no difference to what a text is
refused for. Each check is compared with itself on the text written small; two
texts that differ in letter case only are the same text then. A select list is
written back the way its letters are given, so of that the answers are equal up
to letter case as well.
-/

namespace QueryGate

/-- The error without what it tells of its input. -/
def Error.kind : Error → Error
  | invalidIdentifier .. => invalidIdentifier "" ""
  | unparsable _ => unparsable ""
  | disallowedKind _ => disallowedKind ""
  | dangerousFunction _ => dangerousFunction ""
  | forbiddenSchema _ => forbiddenSchema ""
  | blockedPattern .. => blockedPattern "" ""
  | fragmentTooLong .. => fragmentTooLong 0 0
  | forbiddenToken _ => forbiddenToken ""
  | unknownConnection _ => unknownConnection ""
  | connection .. => connection "" ""
  | timeout .. => timeout "" 0
  | database .. => database "" none ""
  | invalidInput _ => invalidInput ""
  | internal _ => internal ""
  | e => e

/-! ## Answers that say the same -/

section Answers

variable {α β : Type} {R : α → α → Prop} {S : β → β → Prop}

/-- Either both answers have a value, and these are related, or both are errors
of one kind. -/
inductive SameAnswer (R : α → α → Prop) : Except Error α → Except Error α → Prop where
  | ok {a b : α} : R a b → SameAnswer R (.ok a) (.ok b)
  | error {e e' : Error} : e.kind = e'.kind → SameAnswer R (.error e) (.error e')

namespace SameAnswer

theorem of_eq {r r' : Except Error α} (refl : ∀ a, R a a) (h : r = r') : SameAnswer R r r' := by
  subst h
  cases r with
  | ok a => exact .ok (refl a)
  | error e => exact .error rfl

theorem symm {r r' : Except Error α} (flip : ∀ a b, R a b → R b a) (h : SameAnswer R r r') :
    SameAnswer R r' r := by
  cases h with
  | ok related => exact .ok (flip _ _ related)
  | error same => exact .error same.symm

theorem trans {r r' r'' : Except Error α} (chain : ∀ a b c, R a b → R b c → R a c)
    (h : SameAnswer R r r') (h' : SameAnswer R r' r'') : SameAnswer R r r'' := by
  cases h with
  | ok related =>
    cases h' with
    | ok related' => exact .ok (chain _ _ _ related related')
  | error same =>
    cases h' with
    | error same' => exact .error (same.trans same')

/-- Steps that say the same of related values, one after the other. -/
theorem bind {r r' : Except Error α} {f g : α → Except Error β} (h : SameAnswer R r r')
    (next : ∀ a b, R a b → SameAnswer S (f a) (g b)) : SameAnswer S (r >>= f) (r' >>= g) := by
  cases h with
  | ok related => exact next _ _ related
  | error same => exact .error same

theorem mapM {k : α → α} {f : α → Except Error β}
    (h : ∀ a, SameAnswer S (f (k a)) (f a)) (as : List α) :
    SameAnswer (List.Forall₂ S) ((as.map k).mapM f) (as.mapM f) := by
  induction as with
  | nil => exact .ok .nil
  | cons a as ih =>
    rw [List.map_cons, List.mapM_cons, List.mapM_cons]
    refine (h a).bind fun b b' first => ih.bind fun bs bs' others => ?_
    exact .ok (.cons first others)

end SameAnswer

end Answers

open Text (small SameLetters)

/-! ## Literals and names -/

namespace Sql

theorem ofChar?_toLower (c : Char) : Quote.ofChar? c.toLower = Quote.ofChar? c := by
  rcases Text.toLower_cases c with same | ⟨n, rfl⟩
  · rw [same]
  · revert n
    decide

theorem spaces_toLower (c : Char) : spaces c.toLower = spaces c := by
  rcases Text.toLower_cases c with same | ⟨n, rfl⟩
  · rw [same]
  · revert n
    decide

theorem blanked_small (p : Place) (s : List Char) : blanked p (small s) = blanked p s := by
  have mark (q : Quote) (c : Char) : c.toLower = q.char ↔ c = q.char :=
    Text.toLower_eq_iff (by cases q <;> rfl)
  have escape (c : Char) : c.toLower = '\\' ↔ c = '\\' := Text.toLower_eq_iff rfl
  fun_induction blanked p s with
  | case1 => simp [small, blanked]
  | case2 c s q hq ih => simp [Text.small_cons, blanked, ofChar?_toLower, hq, ih]
  | case3 c s hq ih => simp [Text.small_cons, blanked, ofChar?_toLower, hq, ih]
  | case4 q c => simp [small, blanked, mark]
  | case5 q c d s h ih =>
    rw [Text.small_cons, Text.small_cons, blanked, if_pos (by simpa [escape] using h), ih]
  | case6 q s h ih =>
    rw [Text.small_cons, Text.small_cons, blanked, if_neg (by simpa [escape] using h),
      if_pos ((mark q _).2 rfl), if_pos ((mark q _).2 rfl), ih]
  | case7 q d s hd h ih =>
    rw [Text.small_cons] at ih
    conv =>
      lhs
      rw [Text.small_cons, Text.small_cons, blanked, if_neg (by simpa [escape] using h),
        if_pos ((mark q _).2 rfl), if_neg (mt (mark q _).1 hd), ih]
  | case8 q c d s h hc ih =>
    rw [Text.small_cons] at ih
    rw [Text.small_cons, Text.small_cons, blanked, if_neg (by simpa [escape] using h),
      if_neg (mt (mark q _).1 hc), ih]

theorem cover_small (hs : List Bool) (s : List Char) :
    cover hs (small s) = small (cover hs s) := by
  have spaces_small (c : Char) : small (spaces c) = spaces c := by simp [small, spaces]
  induction s generalizing hs with
  | nil => cases hs <;> rfl
  | cons c s ih =>
    cases hs with
    | nil => rfl
    | cons h hs =>
      rw [Text.small_cons, cover, cover, ih, spaces_toLower]
      cases h with
      | false => rfl
      | true => simp only [if_true, Text.small_append, spaces_small]

theorem stripLiterals_small (s : List Char) : stripLiterals (small s) = small (stripLiterals s) := by
  rw [stripLiterals_eq, blanked_small, cover_small, stripLiterals_eq]

theorem Identifier.fault?_small (name : List Char) : fault? (small name) = fault? name := by
  have same : ∀ p ∈ forbidden, (small name).contains p.1 = name.contains p.1 := by
    intro p hp
    have mark : p.1.isAlpha = false := by
      revert p
      decide
    rw [Bool.eq_iff_iff, List.contains_iff_mem, List.contains_iff_mem, Text.mem_small mark]
  have empty : (small name).isEmpty = name.isEmpty := by simp [small]
  have length : (small name).length = name.length := List.length_map _
  unfold fault?
  rw [empty, length]
  congr 3
  exact List.find?_congr same

theorem Identifier.same_quote (name : List Char) :
    SameAnswer SameLetters (quote (small name)) (quote name) := by
  unfold quote check
  rw [fault?_small]
  cases fault? name with
  | some reason => exact .error rfl
  | none =>
    have mark : SameLetters ['\x60'] ['\x60'] := rfl
    exact .ok ((mark.append (Text.small_small name)).append mark)

end Sql

namespace Gate

open Sql (stripLiterals stripLiterals_small)

/-! ## Statements -/

namespace Lexical

theorem fires_small (r : Rule) (sql stripped : List Char) :
    r.fires (small sql) (small stripped) = r.fires sql stripped := by
  unfold Rule.fires
  cases r.reach <;> simp [Text.Pattern.matchesStart_small, Text.Pattern.occurs_small]

theorem isSingle_small (s : List Char) : isSingle (small s) = isSingle s := by
  have front : (Text.trimEnd (small s)).dropLast = small (Text.trimEnd s).dropLast := by
    rw [Text.trimEnd_small, small, small, List.map_dropLast]
  rw [Bool.eq_iff_iff, isSingle_iff_dropLast, isSingle_iff_dropLast, front, Text.mem_small rfl]

theorem verdict_small (s : List Char) : verdict (small s) = verdict s := by
  apply verdict_congr
  · rw [Text.trim_small, small, List.isEmpty_map]
  · rw [Text.trim_small, stripLiterals_small, isSingle_small]
  · intro r _
    rw [Text.trim_small, stripLiterals_small, fires_small]
  · rw [beginsReadOnly, Text.trim_small, Text.upper_small]
    rfl

/-- Texts with one verdict have answers that say the same. -/
theorem same_of_verdict {s t : List Char} (h : verdict s = verdict t) :
    SameAnswer (fun _ _ => True) (check s) (check t) := by
  have kinds (e : Error) : (unlabelled e).kind = e.kind := by cases e <;> rfl
  unfold verdict at h
  cases hs : check s with
  | ok => 
    cases ht : check t with
    | ok => exact .ok trivial
    | error => simp [hs, ht, Except.mapError] at h
  | error e =>
    cases ht : check t with
    | ok => simp [hs, ht, Except.mapError] at h
    | error e' =>
      have same : unlabelled e = unlabelled e' := by simpa [hs, ht, Except.mapError] using h
      exact .error (by rw [← kinds, same, kinds])

end Lexical

namespace Fragment

/-! ## Filters -/

theorem depthAfter_small (depth : Nat) (s : List Char) :
    depthAfter depth (small s) = depthAfter depth s := by
  have opens (c : Char) : c.toLower = '(' ↔ c = '(' := Text.toLower_eq_iff rfl
  have closes (c : Char) : c.toLower = ')' ↔ c = ')' := Text.toLower_eq_iff rfl
  induction s generalizing depth with
  | nil => rfl
  | cons c s ih =>
    rw [Text.small_cons]
    cases depth <;> simp only [depthAfter, opens, closes, ih]

theorem checkFilter_small (filter : List Char) : checkFilter (small filter) = checkFilter filter := by
  have length : (small filter).length = filter.length := List.length_map _
  have empty : (Text.trim (small filter)).isEmpty = (Text.trim filter).isEmpty := by
    rw [Text.trim_small, small, List.isEmpty_map]
  unfold checkFilter
  simp only [length, empty, stripLiterals_small, Text.Pattern.occurs_small, depthAfter_small]

/-! ## Select lists -/

theorem same_quoteReference (reference : List Char) :
    SameAnswer SameLetters (quoteReference (small reference)) (quoteReference reference) := by
  have quoted (name : List Char) : SameAnswer SameLetters (Sql.Identifier.quote (Text.trim (small name)))
      (Sql.Identifier.quote (Text.trim name)) := by
    rw [Text.trim_small]
    exact Sql.Identifier.same_quote _
  unfold quoteReference
  rw [Text.count_small rfl, Text.cutFirst_small rfl]
  split
  · exact .error rfl
  cases Text.cutFirst '.' reference with
  | none => exact Sql.Identifier.same_quote reference
  | some parts =>
    obtain ⟨table, column⟩ := parts
    by_cases all : column = ['*']
    · subst all
      refine (quoted table).bind fun a b same => ?_
      exact .ok (same.append rfl)
    · have all' : small column ≠ ['*'] := mt (Text.small_eq_singleton rfl).1 all
      simp only [Option.map_some, Prod.map]
      refine (quoted table).bind fun a b same => (quoted column).bind fun c d same' => ?_
      have dot : SameLetters ['.'] ['.'] := rfl
      exact .ok (same.append (dot.append same'))

theorem same_quoteItem (text : List Char) :
    SameAnswer SameLetters (quoteItem (small text)) (quoteItem text) := by
  unfold quoteItem
  simp only [Text.trim_small, Text.small_eq_singleton (x := '*') rfl, Text.Pattern.split_small]
  split
  · exact .ok (Text.small_small _)
  cases aliasSeparator.split (Text.trim text) with
  | none => exact same_quoteReference _
  | some parts =>
    obtain ⟨name, label⟩ := parts
    simp only [Option.map_some, Prod.map, Text.trim_small]
    refine (same_quoteReference _).bind fun a b same => ?_
    refine (Sql.Identifier.same_quote _).bind fun c d same' => ?_
    exact .ok ((same.append rfl).append same')

theorem same_selectList (text : List Char) :
    SameAnswer SameLetters (selectList (small text)) (selectList text) := by
  have empty : (small (Text.trim text)).isEmpty = (Text.trim text).isEmpty := by
    rw [small, List.isEmpty_map]
  unfold selectList
  simp only [Text.trim_small, Text.upper_small, @Text.pieces_small ',' rfl, empty]
  split
  · exact .ok rfl
  split
  · exact .error rfl
  · refine (SameAnswer.mapM same_quoteItem _).bind fun items items' same => ?_
    have each : items.map small = items'.map small := by
      induction same with
      | nil => rfl
      | cons first _ ih => rw [List.map_cons, List.map_cons, first, ih]
    exact .ok (by rw [SameLetters, Text.joinWith_small, each, Text.joinWith_small])

end Fragment

/-! ## All three -/

/-- Texts that differ in the case of ASCII letters only are accepted or refused
alike, by the same kind of error, as a statement, as a filter and as a select
list; and what is made of a select list differs in letter case only. -/
theorem letter_case_ignored {s t : List Char} (h : Text.sameAscii s t) :
    SameAnswer (fun _ _ => True) (Lexical.check s) (Lexical.check t) ∧
      SameAnswer (fun _ _ => True) (Fragment.checkFilter s) (Fragment.checkFilter t) ∧
      SameAnswer (fun a b => Text.sameAscii a b) (Fragment.selectList s)
        (Fragment.selectList t) := by
  have same : small s = small t := Text.sameAscii_iff.1 h
  refine ⟨?_, ?_, ?_⟩
  · apply Lexical.same_of_verdict
    rw [← Lexical.verdict_small s, same, Lexical.verdict_small]
  · apply SameAnswer.of_eq (fun _ => trivial)
    rw [← Fragment.checkFilter_small s, same, Fragment.checkFilter_small]
  · simp only [Text.sameAscii_iff]
    have back := (Fragment.same_selectList s).symm fun _ _ => Eq.symm
    rw [same] at back
    exact back.trans (fun _ _ _ => Eq.trans) (Fragment.same_selectList t)

/-- Both spellings of the separator are read as one, and both are kept as names. -/
theorem letter_case_ignored_alias :
    Text.sameAscii "Title aS Name, AS.As".toList "tITLE As nAME, as.aS".toList ∧
      SameAnswer (fun _ _ => True) (Lexical.check "Title aS Name, AS.As".toList)
        (Lexical.check "tITLE As nAME, as.aS".toList) ∧
      SameAnswer (fun _ _ => True) (Fragment.checkFilter "Title aS Name, AS.As".toList)
        (Fragment.checkFilter "tITLE As nAME, as.aS".toList) ∧
      SameAnswer (fun a b => Text.sameAscii a b)
        (Fragment.selectList "Title aS Name, AS.As".toList)
        (Fragment.selectList "tITLE As nAME, as.aS".toList) :=
  have same : Text.sameAscii "Title aS Name, AS.As".toList "tITLE As nAME, as.aS".toList := by
    decide
  ⟨same, letter_case_ignored same⟩

end Gate

end QueryGate
