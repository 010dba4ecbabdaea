import QueryGate.Gate.Fragment
import QueryGate.Proofs.Identifier
import QueryGate.Proofs.Text.Cut
import QueryGate.Proofs.Text.Split
import QueryGate.Proofs.Text.Trim
/-!
# Select lists

A select list is read as a list of items, one for each piece between commas, and
written again from what was read. `WrittenAs` says how a caller may write an
item, and `text` how an item is written: with every name between backticks in
the statement, and with the names as they are in what the caller meant.
-/

namespace QueryGate.Gate.Fragment

open Sql.Identifier (ticked)
open Text (allBlank trim trimStart pieces joinWith sameLetter isBlank)

/-! ## What a caller writes -/

/-- The word between a name and its alias, with blanks on both sides. -/
inductive Separator : List Char → Prop where
  | mk {lead tail : List Char} {a s : Char} : lead ≠ [] → allBlank lead → sameLetter 'A' a →
      sameLetter 'S' s → tail ≠ [] → allBlank tail → Separator (lead ++ a :: s :: tail)

/-- The text up to the first separator, and the text behind it. -/
structure Labelled (item name label : List Char) : Prop where
  separated : ∃ sep, Separator sep ∧ item = name ++ (sep ++ label)
  first : ∀ front sep back, Separator sep → item = front ++ (sep ++ back) →
    name.length ≤ front.length

def Unlabelled (item : List Char) : Prop :=
  ∀ front sep back, Separator sep → item ≠ front ++ (sep ++ back)

/-- What a select list can name. -/
inductive Reference where
  | column (name : List Char)
  /-- All columns of a table. -/
  | whole (table : List Char)
  | within (table name : List Char)
  deriving Repr, DecidableEq

namespace Reference

def names : Reference → List (List Char)
  | column name => [name]
  | whole table => [table]
  | within table name => [table, name]

/-- The reference with its names written in some way. -/
def text (wrap : List Char → List Char) : Reference → List Char
  | column name => wrap name
  | whole table => wrap table ++ ['.', '*']
  | within table name => wrap table ++ '.' :: wrap name

/-- How a reference may be written. Blanks next to the point are not part of the
names on its sides. -/
inductive WrittenAs : Reference → List Char → Prop where
  | column {name : List Char} : '.' ∉ name → WrittenAs (.column name) name
  | whole {table : List Char} : '.' ∉ table →
      WrittenAs (.whole (trim table)) (table ++ ['.', '*'])
  | within {table name : List Char} : '.' ∉ table → '.' ∉ name → name ≠ ['*'] →
      WrittenAs (.within (trim table) (trim name)) (table ++ '.' :: name)

end Reference

inductive Item where
  | all
  | one (reference : Reference) (label : Option (List Char))
  deriving Repr, DecidableEq

namespace Item

def names : Item → List (List Char)
  | all => []
  | one reference label => reference.names ++ label.toList

/-- The item with its names written in some way. -/
def text (wrap : List Char → List Char) : Item → List Char
  | all => ['*']
  | one reference none => reference.text wrap
  | one reference (some label) => reference.text wrap ++ " AS ".toList ++ wrap label

/-- How an item may be written. -/
inductive WrittenAs : Item → List Char → Prop where
  | all {piece : List Char} : trim piece = ['*'] → WrittenAs .all piece
  | bare {piece : List Char} {reference : Reference} : trim piece ≠ ['*'] →
      Unlabelled (trim piece) → reference.WrittenAs (trim piece) →
      WrittenAs (.one reference none) piece
  | labelled {piece name label : List Char} {reference : Reference} :
      Labelled (trim piece) name label → reference.WrittenAs (trim name) →
      WrittenAs (.one reference (some (trim label))) piece

end Item

/-- All of some names can be quoted. -/
def Quotable (names : List (List Char)) : Prop :=
  ∀ name ∈ names, Sql.Identifier.check name = .ok ()

theorem quotable_nil : Quotable [] := List.forall_mem_nil _

theorem quotable_cons {name : List Char} {names : List (List Char)} :
    Quotable (name :: names) ↔ Sql.Identifier.check name = .ok () ∧ Quotable names :=
  List.forall_mem_cons

theorem quotable_append {names names' : List (List Char)} :
    Quotable (names ++ names') ↔ Quotable names ∧ Quotable names' :=
  List.forall_mem_append

/-! ## Where an alias begins -/

theorem mem_ends_aliasSeparator (before : Option Char) {s r : List Char} :
    (∃ s' ∈ aliasSeparator.ends ⟨before, s⟩, s'.rest = r) ↔
      ∃ sep, Separator sep ∧ s = sep ++ r := by
  have pieces : aliasSeparator = [.blank, .blanks, .char 'A', .char 'S', .blank, .blanks] := rfl
  rw [pieces]
  simp only [Text.Pattern.mem_ends_cons, Text.Pattern.mem_ends_nil]
  constructor
  · rintro ⟨_, ⟨s1, h1, s2, h2, s3, h3, s4, h4, s5, h5, s6, h6, rfl⟩, rfl⟩
    obtain ⟨b, r1, rfl, blank, rfl⟩ := Text.Piece.mem_one.1 h1
    obtain ⟨lead, r2, rfl, blanks, rfl⟩ := Text.Piece.mem_blankRuns.1 h2
    obtain ⟨a, r3, rfl, letter, rfl⟩ := Text.Piece.mem_one.1 h3
    obtain ⟨s, r4, rfl, letter', rfl⟩ := Text.Piece.mem_one.1 h4
    obtain ⟨d, r5, rfl, blank', rfl⟩ := Text.Piece.mem_one.1 h5
    obtain ⟨tail, r6, rfl, blanks', rfl⟩ := Text.Piece.mem_blankRuns.1 h6
    refine ⟨(b :: lead) ++ a :: s :: (d :: tail), ?_, by simp⟩
    refine .mk (List.cons_ne_nil _ _) ?_ letter letter' (List.cons_ne_nil _ _) ?_
    · simp_all [allBlank]
    · simp_all [allBlank]
  · rintro ⟨_, ⟨front, blanks, letter, letter', behind, blanks'⟩, rfl⟩
    next lead tail a s =>
    -- Of each gap the pattern takes one blank first, and then the others.
    obtain ⟨b, lead, rfl⟩ := List.exists_cons_of_ne_nil front
    obtain ⟨d, tail, rfl⟩ := List.exists_cons_of_ne_nil behind
    have whole : b :: lead ++ a :: s :: d :: tail ++ r =
        b :: (lead ++ a :: s :: d :: (tail ++ r)) := by simp
    rw [allBlank, List.all_cons, Bool.and_eq_true] at blanks blanks'
    rw [whole]
    exact ⟨_, ⟨_, Text.Piece.one_step blanks.1 before _,
      _, Text.Piece.blanks_step blanks.2 (some b) _,
      _, Text.Piece.one_step letter (lead.getLast?.or (some b)) _,
      _, Text.Piece.one_step letter' (some a) _,
      _, Text.Piece.one_step blanks'.1 (some s) _,
      _, Text.Piece.blanks_step blanks'.2 (some d) r, rfl⟩, rfl⟩

theorem split_aliasSeparator_eq_none {item : List Char} :
    aliasSeparator.split item = none ↔ Unlabelled item := by
  unfold Text.Pattern.split
  rw [Text.Pattern.splitAfter_eq_none]
  constructor
  · intro none front sep back h same
    obtain ⟨s', found, -⟩ :=
      (mem_ends_aliasSeparator (front.getLast?.or .none)).2 ⟨sep, h, rfl⟩
    rw [none front (sep ++ back) same] at found
    cases found
  · intro h a r same
    rw [List.eq_nil_iff_forall_not_mem]
    intro s' found
    obtain ⟨sep, hs, rfl⟩ := (mem_ends_aliasSeparator _).1 ⟨s', found, rfl⟩
    exact h a sep _ hs same

theorem labelled_of_split {item name label : List Char}
    (h : aliasSeparator.split item = some (name, label)) : Labelled item name label := by
  obtain ⟨r, s', rfl, found, rfl, earlier⟩ := Text.Pattern.of_splitAfter h
  obtain ⟨sep, hs, rfl⟩ := (mem_ends_aliasSeparator _).1 ⟨s', found, rfl⟩
  refine ⟨⟨sep, hs, rfl⟩, fun front sep' back h' same => Nat.le_of_not_lt fun short => ?_⟩
  obtain ⟨s'', found', -⟩ :=
    (mem_ends_aliasSeparator (front.getLast?.or none)).2 ⟨sep', h', rfl⟩
  rw [earlier front (sep' ++ back) same short] at found'
  cases found'

theorem not_blank_of_letter {c : Char} (h : sameLetter 'A' c) : isBlank c = false := by
  by_contra blank
  have := Text.Piece.blank_of_sameLetter h (Bool.of_not_eq_false blank)
  revert this
  decide

/-- Behind the blanks in front of the word and the word itself is the label. -/
theorem Separator.label_behind {sep : List Char} (h : Separator sep) (label : List Char) :
    trim ((trimStart (sep ++ label)).drop 2) = trim label := by
  obtain ⟨-, blanks, letter, -, -, blanks'⟩ := h
  next lead tail a s =>
  have front : trimStart (a :: s :: (tail ++ label)) = a :: s :: (tail ++ label) := by
    simp [trimStart, not_blank_of_letter letter]
  have whole : (lead ++ a :: s :: tail) ++ label = lead ++ a :: s :: (tail ++ label) := by simp
  rw [whole, Text.trimStart_blank blanks, front]
  simpa using @Text.trim_blank tail [] blanks' rfl label

/-- A text has one name and, up to blanks, one label. -/
theorem Labelled.unique {item name label name' label' : List Char}
    (h : Labelled item name label) (h' : Labelled item name' label') :
    name = name' ∧ trim label = trim label' := by
  obtain ⟨⟨sep, hs, same⟩, first⟩ := h
  obtain ⟨⟨sep', hs', same'⟩, first'⟩ := h'
  have long : name.length = name'.length :=
    Nat.le_antisymm (first name' sep' label' hs' same') (first' name sep label hs same)
  obtain ⟨rfl, behind⟩ := List.append_inj (same.symm.trans same') long
  refine ⟨rfl, ?_⟩
  -- The pattern may leave some blanks of the second gap to the label.
  rw [← hs.label_behind label, behind, hs'.label_behind]

/-- The separator alone is longer than `*`. -/
theorem Labelled.ne_star {item name label : List Char} (h : Labelled item name label) :
    item ≠ ['*'] := by
  rintro rfl
  obtain ⟨sep, ⟨-, -, -, -, -, -⟩, same⟩ := h.separated
  have := congrArg List.length same
  simp only [List.length_append, List.length_cons, List.length_nil] at this
  omega

theorem Labelled.not_unlabelled {item name label : List Char} (h : Labelled item name label) :
    ¬ Unlabelled item := by
  intro none
  obtain ⟨sep, hs, same⟩ := h.separated
  exact none name sep label hs same

/-! ## Reading a reference -/

theorem count_point {table name : List Char} (ht : '.' ∉ table) :
    (table ++ '.' :: name).count '.' = name.count '.' + 1 := by
  rw [List.count_append, List.count_eq_zero.2 ht, List.count_cons_self, Nat.zero_add]

theorem quoteReference_of_written {r : Reference} {reference : List Char}
    (h : r.WrittenAs reference) (named : Quotable r.names) :
    quoteReference reference = .ok (r.text ticked) := by
  unfold quoteReference
  cases h with
  | column none =>
    have quoted := Sql.Identifier.quote_eq_ok_iff.2 ⟨(quotable_cons.1 named).1, rfl⟩
    rw [if_neg (by simp [List.count_eq_zero.2 none]), Text.cutFirst_eq_none.2 none]
    exact quoted
  | whole none =>
    have quoted := Sql.Identifier.quote_eq_ok_iff.2 ⟨(quotable_cons.1 named).1, rfl⟩
    rw [if_neg (by simp [count_point none]), Text.cutFirst_append none]
    exact bind_eq_ok.2 ⟨_, quoted, rfl⟩
  | within none none' star =>
    obtain ⟨named, named'⟩ := quotable_cons.1 named
    have quoted := Sql.Identifier.quote_eq_ok_iff.2 ⟨named, rfl⟩
    have quoted' := Sql.Identifier.quote_eq_ok_iff.2 ⟨(quotable_cons.1 named').1, rfl⟩
    rw [if_neg (by simp [count_point none, List.count_eq_zero.2 none']),
      Text.cutFirst_append none]
    split
    · next same =>
      cases same
      exact absurd rfl star
    · next same =>
      cases same
      exact bind_eq_ok.2 ⟨_, quoted, bind_eq_ok.2 ⟨_, quoted', rfl⟩⟩
    · next same => cases same

/-- A reference that is quoted was written in one of the three ways. -/
theorem written_of_quoteReference {reference out : List Char}
    (h : quoteReference reference = .ok out) :
    ∃ r : Reference, r.WrittenAs reference ∧ Quotable r.names ∧ out = r.text ticked := by
  unfold quoteReference at h
  split at h
  · cases h
  next few =>
  split at h
  · next table cut =>
    obtain ⟨rfl, none⟩ := Text.cutFirst_eq_some.1 cut
    obtain ⟨t, ht, made⟩ := bind_eq_ok.1 h
    obtain rfl := pure_eq_ok.1 made
    obtain ⟨named, rfl⟩ := Sql.Identifier.quote_eq_ok_iff.1 ht
    exact ⟨_, .whole none, quotable_cons.2 ⟨named, quotable_nil⟩, rfl⟩
  · next table name star cut =>
    obtain ⟨rfl, none⟩ := Text.cutFirst_eq_some.1 cut
    obtain ⟨t, ht, h⟩ := bind_eq_ok.1 h
    obtain ⟨n, hn, made⟩ := bind_eq_ok.1 h
    obtain rfl := pure_eq_ok.1 made
    obtain ⟨named, rfl⟩ := Sql.Identifier.quote_eq_ok_iff.1 ht
    obtain ⟨named', rfl⟩ := Sql.Identifier.quote_eq_ok_iff.1 hn
    rw [count_point none] at few
    have none' : '.' ∉ name := List.count_eq_zero.1 (by omega)
    have column : name ≠ ['*'] := by
      rintro rfl
      exact star rfl
    exact ⟨_, .within none none' column,
      quotable_cons.2 ⟨named, quotable_cons.2 ⟨named', quotable_nil⟩⟩, rfl⟩
  · next cut =>
    obtain ⟨named, rfl⟩ := Sql.Identifier.quote_eq_ok_iff.1 h
    exact ⟨_, .column (Text.cutFirst_eq_none.1 cut), quotable_cons.2 ⟨named, quotable_nil⟩, rfl⟩

/-! ## Reading an item -/

theorem quoteItem_of_written {item : Item} {piece : List Char} (h : item.WrittenAs piece)
    (named : Quotable item.names) : quoteItem piece = .ok (item.text ticked) := by
  unfold quoteItem
  dsimp only
  cases h with
  | all star =>
    rw [if_pos star, star]
    rfl
  | bare star none written =>
    rw [if_neg star, split_aliasSeparator_eq_none.2 none]
    exact quoteReference_of_written written (quotable_append.1 named).1
  | labelled h written =>
    next name label reference =>
    obtain ⟨front, behind⟩ := quotable_append.1 named
    have quoted := Sql.Identifier.quote_eq_ok_iff.2 ⟨(quotable_cons.1 behind).1, rfl⟩
    rw [if_neg h.ne_star]
    cases cut : aliasSeparator.split (trim piece) with
    | none => exact absurd (split_aliasSeparator_eq_none.1 cut) h.not_unlabelled
    | some parts =>
      obtain ⟨rfl, labels⟩ := h.unique (labelled_of_split cut)
      rw [labels] at quoted ⊢
      exact bind_eq_ok.2 ⟨_, quoteReference_of_written written front,
        bind_eq_ok.2 ⟨_, quoted, rfl⟩⟩

theorem written_of_quoteItem {piece out : List Char} (h : quoteItem piece = .ok out) :
    ∃ item : Item, item.WrittenAs piece ∧ Quotable item.names ∧ out = item.text ticked := by
  unfold quoteItem at h
  dsimp only at h
  split at h
  · next star =>
    cases h
    exact ⟨.all, .all star, quotable_nil, star⟩
  next star =>
  split at h
  · next name label cut =>
    obtain ⟨q, hq, h⟩ := bind_eq_ok.1 h
    obtain ⟨l, hl, made⟩ := bind_eq_ok.1 h
    obtain rfl := pure_eq_ok.1 made
    obtain ⟨r, written, named, rfl⟩ := written_of_quoteReference hq
    obtain ⟨named', rfl⟩ := Sql.Identifier.quote_eq_ok_iff.1 hl
    exact ⟨_, .labelled (labelled_of_split cut) written,
      quotable_append.2 ⟨named, quotable_cons.2 ⟨named', quotable_nil⟩⟩, rfl⟩
  · next cut =>
    obtain ⟨r, written, named, rfl⟩ := written_of_quoteReference h
    exact ⟨_, .bare star (split_aliasSeparator_eq_none.1 cut) written,
      quotable_append.2 ⟨named, quotable_nil⟩, rfl⟩

/-! ## What is written again -/

/-- A text of names between backticks, with nothing but the marks of a select
list outside them. -/
inductive Sealed : List Char → Prop where
  | nil : Sealed []
  | mark {m : String} {s : List Char} : m ∈ ["*", ".", ", ", " AS "] → Sealed s →
      Sealed (m.toList ++ s)
  | name {n s : List Char} : Sql.Identifier.check n = .ok () → Sealed s → Sealed (ticked n ++ s)

theorem Sealed.append {s t : List Char} (hs : Sealed s) (ht : Sealed t) : Sealed (s ++ t) := by
  induction hs with
  | nil => exact ht
  | mark known _ ih =>
    rw [List.append_assoc]
    exact .mark known ih
  | name named _ ih =>
    rw [List.append_assoc]
    exact .name named ih

theorem sealed_mark {m : String} (h : m ∈ ["*", ".", ", ", " AS "]) : Sealed m.toList := by
  have := Sealed.mark h .nil
  rwa [List.append_nil] at this

theorem sealed_ticked {n : List Char} (h : Sql.Identifier.check n = .ok ()) :
    Sealed (ticked n) := by
  have := Sealed.name h .nil
  rwa [List.append_nil] at this

theorem Reference.sealed {r : Reference} (named : Quotable r.names) :
    Sealed (r.text ticked) := by
  have point : Sealed ".".toList := sealed_mark (by simp)
  have star : Sealed "*".toList := sealed_mark (by simp)
  cases r with
  | column name => exact sealed_ticked (quotable_cons.1 named).1
  | whole table => exact (sealed_ticked (quotable_cons.1 named).1).append (point.append star)
  | within table name =>
    obtain ⟨named, named'⟩ := quotable_cons.1 named
    exact (sealed_ticked named).append (point.append (sealed_ticked (quotable_cons.1 named').1))

theorem Item.sealed {item : Item} (named : Quotable item.names) : Sealed (item.text ticked) := by
  cases item with
  | all => exact sealed_mark (m := "*") (by simp)
  | one reference label =>
    obtain ⟨front, behind⟩ := quotable_append.1 named
    cases label with
    | none => exact Reference.sealed front
    | some label =>
      have word : Sealed " AS ".toList := sealed_mark (by simp)
      exact ((Reference.sealed front).append word).append
        (sealed_ticked (quotable_cons.1 behind).1)

theorem sealed_joinWith {parts : List (List Char)} (h : ∀ part ∈ parts, Sealed part) :
    Sealed (joinWith ", ".toList parts) := by
  have comma : Sealed ", ".toList := sealed_mark (by simp)
  exact Text.joinWith_of_parts .nil (fun a b ha hb => ha.append (comma.append hb)) h

/-! ## Without the backticks -/

def unticked (s : List Char) : List Char := s.filter (· ≠ '\x60')

theorem unticked_append (s t : List Char) : unticked (s ++ t) = unticked s ++ unticked t :=
  List.filter_append s t

theorem unticked_eq_self {s : List Char} (h : '\x60' ∉ s) : unticked s = s := by
  rw [unticked, List.filter_eq_self]
  intro c hc
  exact decide_eq_true (ne_of_mem_of_not_mem hc h)

theorem unticked_ticked {name : List Char} (h : Sql.Identifier.check name = .ok ()) :
    unticked (ticked name) = name := by
  have none := (Sql.Identifier.check_eq_ok_iff.1 h).no_backtick
  have ends : unticked ['\x60'] = [] := rfl
  have whole : ticked name = ['\x60'] ++ name ++ ['\x60'] := rfl
  rw [whole, unticked_append, unticked_append, ends, unticked_eq_self none, List.nil_append,
    List.append_nil]

theorem Reference.unticked_text {r : Reference} (named : Quotable r.names) :
    unticked (r.text ticked) = r.text id := by
  cases r with
  | column name => exact unticked_ticked (quotable_cons.1 named).1
  | whole table =>
    rw [text, unticked_append, unticked_ticked (quotable_cons.1 named).1]
    rfl
  | within table name =>
    obtain ⟨named, named'⟩ := quotable_cons.1 named
    have point : ∀ s, unticked ('.' :: s) = '.' :: unticked s := fun s => rfl
    rw [text, unticked_append, point, unticked_ticked named,
      unticked_ticked (quotable_cons.1 named').1]
    rfl

theorem Item.unticked_text {item : Item} (named : Quotable item.names) :
    unticked (item.text ticked) = item.text id := by
  cases item with
  | all => rfl
  | one reference label =>
    obtain ⟨front, behind⟩ := quotable_append.1 named
    cases label with
    | none => exact Reference.unticked_text front
    | some label =>
      have word : unticked " AS ".toList = " AS ".toList := unticked_eq_self (by simp)
      rw [text, unticked_append, unticked_append, Reference.unticked_text front, word,
        unticked_ticked (quotable_cons.1 behind).1]
      rfl

/-! ## Whole lists -/

/-- The items of a list are read and quoted one by one. -/
theorem mapM_quoteItem_iff {parts texts : List (List Char)} :
    parts.mapM quoteItem = .ok texts ↔
      ∃ items, List.Forall₂ Item.WrittenAs items parts ∧
        (∀ item ∈ items, Quotable item.names) ∧
        texts = items.map (Item.text ticked) := by
  rw [mapM_eq_ok_iff]
  constructor
  · intro h
    induction h with
    | nil => exact ⟨[], .nil, by simp, rfl⟩
    | cons first _ ih =>
      obtain ⟨item, written, named, rfl⟩ := written_of_quoteItem first
      obtain ⟨items, others, named', rfl⟩ := ih
      exact ⟨item :: items, .cons written others, List.forall_mem_cons.2 ⟨named, named'⟩, rfl⟩
  · rintro ⟨items, written, named, rfl⟩
    induction written with
    | nil => exact .nil
    | cons first _ ih =>
      obtain ⟨named, named'⟩ := List.forall_mem_cons.1 named
      exact .cons (quoteItem_of_written first named) (ih named')

/-- A list passes just if it is blank, or has none of the forbidden parts and
can be read as items with names that may be quoted. It is written again with
these names between backticks, where nothing else of the caller's stands, and
without the backticks every item says what the caller wrote. -/
theorem selectList_eq_ok_iff (text out : List Char) :
    selectList text = .ok out ↔
      (allBlank text ∧ out = ['*']) ∨
      (¬ allBlank text ∧
        (∀ part ∈ forbiddenParts, ¬ part.toList <:+: Text.upper (trim text)) ∧
        ∃ items, List.Forall₂ Item.WrittenAs items (pieces ',' (trim text)) ∧
          (∀ item ∈ items, Quotable item.names) ∧
          out = joinWith ", ".toList (items.map (Item.text ticked)) ∧
          Sealed out ∧
          ∀ item ∈ items, unticked (item.text ticked) = item.text id) := by
  unfold selectList
  dsimp only
  by_cases blank : allBlank text
  · rw [if_pos (List.isEmpty_iff.2 (Text.trim_eq_nil.2 blank))]
    simp [blank, eq_comm]
  have some : ¬ (trim text).isEmpty := by
    rw [List.isEmpty_iff]
    exact mt Text.trim_eq_nil.1 blank
  rw [if_neg some]
  have absent :
      (forbiddenParts.find? fun p => Text.hasPart p.toList (Text.upper (trim text))) = none ↔
        ∀ part ∈ forbiddenParts, ¬ part.toList <:+: Text.upper (trim text) := by
    simp only [List.find?_eq_none, Text.hasPart_iff]
  split
  · next part found =>
    have clash : ¬ ∀ part ∈ forbiddenParts, ¬ part.toList <:+: Text.upper (trim text) := by
      rw [← absent, found]
      simp
    simp [blank, clash]
  · next none =>
    simp only [bind_eq_ok, pure_eq_ok, mapM_quoteItem_iff]
    constructor
    · rintro ⟨_, ⟨items, written, named, rfl⟩, rfl⟩
      refine .inr ⟨blank, absent.1 none, items, written, named, rfl, ?_, ?_⟩
      · refine sealed_joinWith fun part hp => ?_
        obtain ⟨item, hi, rfl⟩ := List.mem_map.1 hp
        exact Item.sealed (named item hi)
      · exact fun item hi => Item.unticked_text (named item hi)
    · rintro (⟨all, -⟩ | ⟨-, -, items, written, named, rfl, -, -⟩)
      · exact absurd all blank
      · exact ⟨_, ⟨items, written, named, rfl⟩, rfl⟩

example : selectList " t.a  As b, *".toList =
    .ok "\x60t\x60.\x60a\x60 AS \x60b\x60, *".toList := by decide

end QueryGate.Gate.Fragment
