import Mathlib.Algebra.GroupWithZero.Nat
import Mathlib.Data.List.Induction
import Mathlib.Data.List.Nodup
import QueryGate.Schema.Index
/-!
# Rows grouped by index

`collect` takes the rows one by one. `Collected` is what the drafts hold of the
rows that were taken: `Collected.step` keeps it with one row more, so it holds of
all of them in the end. Sorting a draft moves its columns and no others, and
where no two rows have the same place in an index it makes the order of the rows
irrelevant.
-/

namespace QueryGate.Schema.Index

variable {parts : List IndexPart} {drafts : List Draft}

/-- The rows of one index. -/
def rowsOf (name : String) (parts : List IndexPart) : List IndexPart :=
  parts.filter (·.index == name)

/-- The number of the row in which a name first occurs. -/
def firstRow (parts : List IndexPart) (name : String) : Nat :=
  (parts.map IndexPart.index).idxOf name

/-- `sorted` has the rows by their places, and rows of one place in the order in
which they were. -/
structure InPlace (rows sorted : List IndexPart) : Prop where
  ascending : sorted.Pairwise fun a b => a.position ≤ b.position
  stable : ∀ k, sorted.filter (·.position == k) = rows.filter (·.position == k)

/-- What an index says of its rows. -/
structure Describes (rows : List IndexPart) (i : Index) : Prop where
  columns : ∃ sorted, InPlace rows sorted ∧ i.columns = sorted.map labelOf
  primary : i.isPrimary = (i.name == primaryName)
  first : ∃ p, rows.head? = some p ∧ i.isUnique = (i.isPrimary || !p.nonUnique) ∧ i.type = p.type

/-- The indexes of some rows. -/
structure Grouped (parts : List IndexPart) (indexes : List Index) : Prop where
  names : ∀ name, name ∈ indexes.map Index.name ↔ name ∈ parts.map IndexPart.index
  /-- In the order in which they first occur, and so none of them twice. -/
  order : (indexes.map Index.name).Pairwise fun a b => firstRow parts a < firstRow parts b
  describes : ∀ i ∈ indexes, Describes (rowsOf i.name parts) i
  total : (indexes.map (·.columns.length)).sum = parts.length

/-- The columns of the index of a name. -/
def columnsOf (name : String) (indexes : List Index) : Option (List String) :=
  (indexes.find? (·.name == name)).map Index.columns

/-! ## One row more -/

theorem rowsOf_concat_same (p : IndexPart) (parts : List IndexPart) :
    rowsOf p.index (parts ++ [p]) = rowsOf p.index parts ++ [p] := by
  simp [rowsOf]

theorem rowsOf_concat_other {p : IndexPart} {name : String} (h : p.index ≠ name)
    (parts : List IndexPart) : rowsOf name (parts ++ [p]) = rowsOf name parts := by
  simp [rowsOf, h]

theorem rowsOf_eq_nil {name : String} (h : name ∉ parts.map IndexPart.index) :
    rowsOf name parts = [] := by
  rw [rowsOf, List.filter_eq_nil_iff]
  intro p hp same
  exact h (List.mem_map.2 ⟨p, hp, eq_of_beq same⟩)

theorem firstRow_concat {name : String} (h : name ∈ parts.map IndexPart.index) (p : IndexPart) :
    firstRow (parts ++ [p]) name = firstRow parts name := by
  rw [firstRow, List.map_append, List.idxOf_append_of_mem h, firstRow]

theorem firstRow_concat_new {p : IndexPart} (h : p.index ∉ parts.map IndexPart.index) :
    firstRow (parts ++ [p]) p.index = parts.length := by
  rw [firstRow, List.map_append, List.idxOf_append_of_notMem h]
  simp

theorem firstRow_lt {name : String} (h : name ∈ parts.map IndexPart.index) :
    firstRow parts name < parts.length := by
  simpa [firstRow] using List.idxOf_lt_length_of_mem h

/-! ## Drafts -/

def Draft.name (d : Draft) : String := d.index.name

/-- A row's column with its place. -/
def placed (p : IndexPart) : Nat × String := (p.position, labelOf p)

/-- What a draft holds of the rows of its index. -/
structure Draft.Holds (rows : List IndexPart) (d : Draft) : Prop where
  columns : d.columns = rows.map placed
  first : ∃ p, rows.head? = some p ∧ d.index = (Draft.start p).index

@[simp] theorem Draft.name_add (p : IndexPart) (d : Draft) : (d.add p).name = d.name := rfl

@[simp] theorem Draft.name_start_add (p : IndexPart) : ((Draft.start p).add p).name = p.index := rfl

theorem Draft.Holds.add {rows : List IndexPart} {d : Draft} (h : d.Holds rows) (p : IndexPart) :
    (d.add p).Holds (rows ++ [p]) := by
  obtain ⟨q, head, index⟩ := h.first
  refine ⟨?_, q, ?_, index⟩
  · simp [Draft.add, h.columns, placed]
  · simp [head]

theorem Draft.holds_start (p : IndexPart) : ((Draft.start p).add p).Holds [p] :=
  ⟨rfl, p, rfl, rfl⟩

/-- What becomes of the drafts: the one of the row's name gets the row, or a new
one is begun with it. -/
theorem collect_cases (drafts : List Draft) (p : IndexPart) :
    (p.index ∉ drafts.map Draft.name ∧ collect drafts p = drafts ++ [(Draft.start p).add p]) ∨
    ∃ before d behind, drafts = before ++ d :: behind ∧ d.name = p.index ∧
      collect drafts p = before ++ d.add p :: behind := by
  unfold collect
  cases hi : drafts.findIdx? (·.index.name == p.index) with
  | none =>
    refine .inl ⟨?_, rfl⟩
    intro known
    obtain ⟨d, hd, same⟩ := List.mem_map.1 known
    have other := List.findIdx?_eq_none_iff.1 hi d hd
    simp [← same, Draft.name] at other
  | some i =>
    right
    obtain ⟨hlt, same, -⟩ := List.findIdx?_eq_some_iff_getElem.1 hi
    refine ⟨drafts.take i, drafts[i], drafts.drop (i + 1), ?_, eq_of_beq same, ?_⟩
    · rw [← List.drop_eq_getElem_cons hlt, List.take_append_drop]
    · exact List.modify_eq_take_cons_drop hlt

/-- What is held of the rows that were taken. -/
structure Collected (parts : List IndexPart) (drafts : List Draft) : Prop where
  names : ∀ name, name ∈ drafts.map Draft.name ↔ name ∈ parts.map IndexPart.index
  order : (drafts.map Draft.name).Pairwise fun a b => firstRow parts a < firstRow parts b
  holds : ∀ d ∈ drafts, d.Holds (rowsOf d.name parts)
  total : (drafts.map (·.columns.length)).sum = parts.length

namespace Collected

theorem nil : Collected [] [] :=
  ⟨by simp, List.Pairwise.nil, by simp, rfl⟩

/-- Names that are known stay in their order. -/
theorem order_concat (h : Collected parts drafts) (p : IndexPart) :
    (drafts.map Draft.name).Pairwise fun a b =>
      firstRow (parts ++ [p]) a < firstRow (parts ++ [p]) b := by
  apply h.order.imp_of_mem
  intro a b ha hb earlier
  rwa [firstRow_concat ((h.names a).1 ha), firstRow_concat ((h.names b).1 hb)]

/-- A draft of another name holds what it held. -/
theorem holds_concat (h : Collected parts drafts) {p : IndexPart} {d : Draft} (hd : d ∈ drafts)
    (other : p.index ≠ d.name) : d.Holds (rowsOf d.name (parts ++ [p])) := by
  rw [rowsOf_concat_other other]
  exact h.holds d hd

theorem step_new (h : Collected parts drafts) {p : IndexPart}
    (new : p.index ∉ drafts.map Draft.name) :
    Collected (parts ++ [p]) (drafts ++ [(Draft.start p).add p]) := by
  have unseen : p.index ∉ parts.map IndexPart.index := fun seen => new ((h.names _).2 seen)
  refine ⟨?_, ?_, ?_, ?_⟩
  · intro name
    simp only [List.map_append, List.mem_append, h.names name, List.map_cons, List.map_nil,
      Draft.name_start_add]
  · rw [List.map_append, List.pairwise_append]
    refine ⟨h.order_concat p, List.pairwise_singleton _ _, ?_⟩
    intro a ha b hb
    obtain rfl : b = p.index := List.mem_singleton.1 hb
    have known := (h.names a).1 ha
    rw [firstRow_concat known, firstRow_concat_new unseen]
    exact firstRow_lt known
  · intro d hd
    rcases List.mem_append.1 hd with old | last
    · apply h.holds_concat old
      intro same
      exact new (same ▸ List.mem_map_of_mem old)
    · obtain rfl := List.mem_singleton.1 last
      rw [Draft.name_start_add, rowsOf_concat_same, rowsOf_eq_nil unseen]
      exact Draft.holds_start p
  · simp [h.total, Draft.add, Draft.start]

theorem step_known {before behind : List Draft} {d : Draft} {p : IndexPart}
    (h : Collected parts (before ++ d :: behind)) (same : d.name = p.index) :
    Collected (parts ++ [p]) (before ++ d.add p :: behind) := by
  have names : (before ++ d.add p :: behind).map Draft.name =
      (before ++ d :: behind).map Draft.name := by simp
  have seen : p.index ∈ parts.map IndexPart.index := by
    apply (h.names _).1
    simp [← same]
  -- No other draft has the row's name, for names are in strict order.
  have others : ∀ e ∈ before ++ behind, p.index ≠ e.name := by
    have order := h.order
    rw [List.map_append, List.map_cons, List.pairwise_append, List.pairwise_cons] at order
    intro e he
    rw [← same]
    intro equal
    rcases List.mem_append.1 he with left | right
    · have earlier := order.2.2 _ (List.mem_map_of_mem left) _ List.mem_cons_self
      rw [equal] at earlier
      exact Nat.lt_irrefl _ earlier
    · have later := order.2.1.1 _ (List.mem_map_of_mem right)
      rw [equal] at later
      exact Nat.lt_irrefl _ later
  refine ⟨?_, ?_, ?_, ?_⟩
  · intro name
    rw [names, h.names, List.map_append, List.mem_append]
    constructor
    · intro hn
      exact .inl hn
    · rintro (hn | hn)
      · exact hn
      · rwa [List.mem_singleton.1 hn]
  · rw [names]
    exact h.order_concat p
  · intro e he
    rw [List.mem_append, List.mem_cons] at he
    rcases he with left | rfl | right
    · exact h.holds_concat (by simp [left]) (others e (by simp [left]))
    · rw [Draft.name_add, same, rowsOf_concat_same, ← same]
      exact (h.holds d (by simp)).add p
    · exact h.holds_concat (by simp [right]) (others e (by simp [right]))
  · have total := h.total
    simp [Draft.add] at total ⊢
    omega

/-- One row more. -/
theorem step (h : Collected parts drafts) (p : IndexPart) :
    Collected (parts ++ [p]) (collect drafts p) := by
  rcases collect_cases drafts p with ⟨new, after⟩ | ⟨before, d, behind, rfl, same, after⟩
  · rw [after]
    exact h.step_new new
  · rw [after]
    exact h.step_known same

theorem foldl (parts : List IndexPart) : Collected parts (parts.foldl collect []) := by
  induction parts using List.reverseRecOn with
  | nil => exact nil
  | append_singleton parts p ih =>
    rw [List.foldl_append]
    exact ih.step p

end Collected

/-! ## Columns by their places -/

/-- Rows by their places. -/
def inOrder (rows : List IndexPart) : List IndexPart :=
  rows.mergeSort fun a b => a.position ≤ b.position

theorem place_trans (a b c : IndexPart) (hab : decide (a.position ≤ b.position) = true)
    (hbc : decide (b.position ≤ c.position) = true) : decide (a.position ≤ c.position) = true := by
  simp only [decide_eq_true_eq] at hab hbc ⊢
  exact Nat.le_trans hab hbc

theorem place_total (a b : IndexPart) :
    (decide (a.position ≤ b.position) || decide (b.position ≤ a.position)) = true := by
  simp only [Bool.or_eq_true, decide_eq_true_eq]
  exact Nat.le_total _ _

theorem inOrder_perm (rows : List IndexPart) : (inOrder rows).Perm rows :=
  List.mergeSort_perm rows _

/-- Rows of one place are a sorted part of the rows, so they stay in their
order. -/
theorem filter_inOrder (rows : List IndexPart) (k : Nat) :
    (inOrder rows).filter (·.position == k) = rows.filter (·.position == k) := by
  have level : (rows.filter (·.position == k)).Pairwise
      fun a b => decide (a.position ≤ b.position) = true := by
    apply List.pairwise_of_forall_mem_list
    intro a ha b hb
    have hka := eq_of_beq (List.mem_filter.1 ha).2
    have hkb := eq_of_beq (List.mem_filter.1 hb).2
    simp [hka, hkb]
  have kept : (rows.filter (·.position == k)).Sublist (inOrder rows) :=
    List.sublist_mergeSort place_trans place_total level List.filter_sublist
  have within := kept.filter (·.position == k)
  simp only [List.filter_filter, Bool.and_self] at within
  symm
  apply within.eq_of_length
  exact ((inOrder_perm rows).filter _).length_eq.symm

theorem inPlace_inOrder (rows : List IndexPart) : InPlace rows (inOrder rows) := by
  refine ⟨?_, filter_inOrder rows⟩
  have sorted := List.pairwise_mergeSort place_trans place_total rows
  exact sorted.imp of_decide_eq_true

/-- Places and columns are sorted as their rows are. -/
theorem mergeSort_placed (rows : List IndexPart) :
    (rows.map placed).mergeSort (fun a b => a.1 ≤ b.1) = (inOrder rows).map placed := by
  symm
  apply List.map_mergeSort
  intro a _ b _
  rfl

@[simp] theorem Draft.name_finish (d : Draft) : d.finish.name = d.name := rfl

theorem Draft.Holds.columns_finish {rows : List IndexPart} {d : Draft} (h : d.Holds rows) :
    d.finish.columns = (inOrder rows).map labelOf := by
  change (d.columns.mergeSort fun a b => a.1 ≤ b.1).map Prod.snd = _
  rw [h.columns, mergeSort_placed, List.map_map]
  rfl

/-- No column is lost when they are sorted. -/
theorem Draft.length_finish (d : Draft) : d.finish.columns.length = d.columns.length := by
  simp [Draft.finish]

theorem Draft.Holds.describes {rows : List IndexPart} {d : Draft} (h : d.Holds rows) :
    Describes rows d.finish := by
  obtain ⟨p, head, index⟩ := h.first
  refine ⟨⟨inOrder rows, inPlace_inOrder rows, h.columns_finish⟩, ?_, p, head, ?_, ?_⟩
  · simp [Draft.finish, index, Draft.start]
  · simp [Draft.finish, index, Draft.start, Bool.or_comm]
  · simp [Draft.finish, index, Draft.start]

theorem grouped (parts : List IndexPart) : Grouped parts (group parts) := by
  have collected := Collected.foldl parts
  have names : (group parts).map Index.name = (parts.foldl collect []).map Draft.name := by
    simp [group, List.map_map, Function.comp_def]
  refine ⟨?_, ?_, ?_, ?_⟩
  · rw [names]
    exact collected.names
  · rw [names]
    exact collected.order
  · intro i hi
    obtain ⟨d, hd, rfl⟩ := List.mem_map.1 hi
    exact (collected.holds d hd).describes
  · rw [← collected.total]
    simp [group, List.map_map, Function.comp_def, Draft.length_finish]

/-! ## Rows in another order -/

theorem InPlace.perm {rows sorted : List IndexPart} (h : InPlace rows sorted) :
    sorted.Perm rows := by
  rw [List.perm_iff_count]
  intro p
  have level := congrArg (List.count p) (h.stable p.position)
  rwa [List.count_filter (by simp), List.count_filter (by simp)] at level

/-- Rows of different places can be sorted in one way only. -/
theorem InPlace.unique {rows rows' sorted sorted' : List IndexPart} (h : InPlace rows sorted)
    (h' : InPlace rows' sorted') (perm : rows'.Perm rows)
    (distinct : (rows.map IndexPart.position).Nodup) : sorted' = sorted := by
  have same : sorted'.Perm sorted := h'.perm.trans (perm.trans h.perm.symm)
  apply same.eq_of_pairwise _ h'.ascending h.ascending
  intro a b ha hb hab hba
  have hab : a.position = b.position := Nat.le_antisymm hab hba
  have ha' : a ∈ rows := perm.subset (h'.perm.subset ha)
  exact List.inj_on_of_nodup_map distinct ha' (h.perm.subset hb) hab

theorem nodup_positions (h : (parts.map fun p => (p.index, p.position)).Nodup) (name : String) :
    ((rowsOf name parts).map IndexPart.position).Nodup := by
  have own : ((rowsOf name parts).map fun p => (p.index, p.position)).Nodup :=
    h.sublist (List.filter_sublist.map _)
  apply List.Nodup.map_on _ (List.Nodup.of_map _ own)
  intro a ha b hb same
  have hna := eq_of_beq (List.mem_filter.1 ha).2
  have hnb := eq_of_beq (List.mem_filter.1 hb).2
  exact List.inj_on_of_nodup_map own ha hb (by rw [hna, hnb, same])

namespace Grouped

variable {indexes : List Index} {name : String}

theorem columnsOf_eq_none (h : Grouped parts indexes) (hn : name ∉ parts.map IndexPart.index) :
    columnsOf name indexes = none := by
  rw [columnsOf, Option.map_eq_none_iff, List.find?_eq_none]
  intro i hi same
  apply hn
  rw [← h.names]
  exact List.mem_map.2 ⟨i, hi, eq_of_beq same⟩

theorem columnsOf_eq_some (h : Grouped parts indexes) (hn : name ∈ parts.map IndexPart.index) :
    ∃ sorted, InPlace (rowsOf name parts) sorted ∧
      columnsOf name indexes = some (sorted.map labelOf) := by
  obtain ⟨i, hi, rfl⟩ := List.mem_map.1 ((h.names name).2 hn)
  cases found : indexes.find? (·.name == i.name) with
  | none => simpa using List.find?_eq_none.1 found i hi
  | some j =>
    have isNamed := List.find?_some found
    have same : j.name = i.name := eq_of_beq isNamed
    obtain ⟨sorted, inPlace, columns⟩ := (h.describes j (List.mem_of_find?_eq_some found)).columns
    rw [same] at inPlace
    exact ⟨sorted, inPlace, by rw [columnsOf, found, Option.map_some, columns]⟩

/-- With one row to a place, each index has the same columns whatever the order of
the rows. -/
theorem columnsOf_perm {parts' : List IndexPart} {indexes' : List Index}
    (h : Grouped parts indexes) (h' : Grouped parts' indexes') (perm : parts'.Perm parts)
    (distinct : (parts.map fun p => (p.index, p.position)).Nodup) :
    columnsOf name indexes' = columnsOf name indexes := by
  have names : name ∈ parts'.map IndexPart.index ↔ name ∈ parts.map IndexPart.index :=
    (perm.map _).mem_iff
  by_cases hn : name ∈ parts.map IndexPart.index
  · obtain ⟨sorted, inPlace, columns⟩ := h.columnsOf_eq_some hn
    obtain ⟨sorted', inPlace', columns'⟩ := h'.columnsOf_eq_some (names.2 hn)
    rw [columns, columns', inPlace.unique inPlace' (perm.filter _) (nodup_positions distinct name)]
  · rw [h.columnsOf_eq_none hn, h'.columnsOf_eq_none fun hn' => hn (names.1 hn')]

end Grouped

/-- The indexes stand for all rows, each with its own; and with one row to a place
in each index, the order of the rows makes no difference to its columns. -/
theorem group_exact (parts : List IndexPart) :
    Grouped parts (group parts) ∧
      ((parts.map fun p => (p.index, p.position)).Nodup →
        ∀ parts', parts'.Perm parts → ∀ name,
          columnsOf name (group parts') = columnsOf name (group parts)) := by
  refine ⟨grouped parts, ?_⟩
  intro distinct parts' perm name
  exact (grouped parts).columnsOf_perm (grouped parts') perm distinct

/-- Two indexes whose rows are mixed, one of them with an expression. -/
def mixedRows : List IndexPart :=
  [⟨"by_name", 2, none, true, some "BTREE"⟩, ⟨"PRIMARY", 1, some "id", true, none⟩,
   ⟨"by_name", 1, some "last", false, some "HASH"⟩]

theorem group_exact_mixed :
    (mixedRows.map fun p => (p.index, p.position)).Nodup ∧
    mixedRows.reverse.Perm mixedRows ∧
    group mixedRows =
      [⟨"by_name", ["last", "(expression)"], false, false, some "BTREE"⟩,
       ⟨"PRIMARY", ["id"], true, true, none⟩] ∧
    columnsOf "by_name" (group mixedRows.reverse) = some ["last", "(expression)"] := by
  have distinct : (mixedRows.map fun p => (p.index, p.position)).Nodup := by decide
  have perm : mixedRows.reverse.Perm mixedRows := List.reverse_perm mixedRows
  have grouped : group mixedRows =
      [⟨"by_name", ["last", "(expression)"], false, false, some "BTREE"⟩,
       ⟨"PRIMARY", ["id"], true, true, none⟩] := by
    simp [group, mixedRows, collect, Draft.start, Draft.add, Draft.finish, labelOf, primaryName,
      List.findIdx?_cons, List.mergeSort]
  refine ⟨distinct, perm, grouped, ?_⟩
  rw [(group_exact mixedRows).2 distinct mixedRows.reverse perm "by_name", grouped]
  rfl

end QueryGate.Schema.Index
