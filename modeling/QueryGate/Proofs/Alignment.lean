import Mathlib.Data.List.Forall2
import QueryGate.Proofs.OneLine
/-!
# Columns of a grid

The widths of the columns are found in one pass over the rows, and the lines are
written in another. The passes agree: a column is as wide as the widest text that
is shown in it, so the spaces beside a text are what the text leaves of the width,
and never cut short. This holds for every way to measure a text.
-/

namespace QueryGate.Render.Grid

/-! ## Lines in columns -/

/-- A text that is shown, and whether it is the text of a number. -/
structure Cell where
  text : List Char
  isNumber : Bool

def Cell.ofName (name : String) : Cell := ⟨name.toList, false⟩

/-- The cell of a row in a column; what a short row lacks is not a number. -/
def cellAt (row : List Json) (i : Nat) : Cell := ⟨shownAt row i, row[i]?.any Json.isNumber⟩

variable (width : List Char → Nat)

/-- A cell with spaces up to the width of its column, which stand in front of a
number and behind all else. -/
inductive Fills (columnWidth : Nat) : Cell → List Char → Prop
  | number {text : List Char} {n : Nat} (h : width text + n = columnWidth) :
    Fills columnWidth ⟨text, true⟩ (List.replicate n ' ' ++ text)
  | other {text : List Char} {n : Nat} (h : width text + n = columnWidth) :
    Fills columnWidth ⟨text, false⟩ (text ++ List.replicate n ' ')

/-- A line that has one cell for each column. -/
inductive Line : List Nat → List Cell → List Char → Prop
  | ending : Line [] [] ['|', '\n']
  | cell {w : Nat} {ws : List Nat} {c : Cell} {cs : List Cell} {filled line : List Char}
    (first : Fills width w c filled) (others : Line ws cs line) :
    Line (w :: ws) (c :: cs) ('|' :: ' ' :: (filled ++ ' ' :: line))

/-- None of the texts is wider, and one is as wide. -/
def Widest (texts : List (List Char)) (w : Nat) : Prop :=
  (∃ t ∈ texts, width t = w) ∧ ∀ t ∈ texts, width t ≤ w

/-- The widths of the columns, the frame, the line of the names and the lines of the
rows, as they belong together. -/
structure Aligned (columns : List String) (rows : List (List Json)) (widths : List Nat)
    (frame names : List Char) (lines : List (List Char)) : Prop where
  length_widths : widths.length = columns.length
  widest : ∀ i name, columns[i]? = some name →
    ∃ w, widths[i]? = some w ∧ Widest width (name.toList :: rows.map (shownAt · i)) w
  dashes : frame = widths.flatMap (fun w => '+' :: List.replicate (w + 2) '-') ++ ['+', '\n']
  header : Line width widths (columns.map Cell.ofName) names
  body : List.Forall₂ (fun row => Line width widths ((List.range columns.length).map (cellAt row)))
    rows lines

variable {width} {columns : List String} {rows : List (List Json)} {row : List Json} {i w : Nat}
  {name : String}

/-! ## The widths -/

theorem widest_columnWidth (width : List Char → Nat) (name : List Char) (rows : List (List Json))
    (i : Nat) :
    Widest width (name :: rows.map (shownAt · i)) (columnWidth width name rows i) := by
  have greatest : (width name :: rows.map fun row => width (shownAt row i)).max? =
      some (columnWidth width name rows i) := by
    rw [List.max?_cons', List.foldl_map]
    simp only [columnWidth, valueText_cellOf]
  obtain ⟨attained, bound⟩ := List.max?_eq_some_iff.1 greatest
  have texts : (width name :: rows.map fun row => width (shownAt row i)) =
      (name :: rows.map (shownAt · i)).map width := by
    rw [List.map_cons, List.map_map]
    rfl
  rw [texts] at attained bound
  exact ⟨List.mem_map.1 attained, List.forall_mem_map.1 bound⟩

theorem getElem?_columnWidths (h : columns[i]? = some name) :
    (columnWidths width columns rows)[i]? = some (columnWidth width name.toList rows i) := by
  simp [columnWidths, List.getElem?_zipIdx, h]

theorem name_of_columnWidths (h : (columnWidths width columns rows)[i]? = some w) :
    ∃ name, columns[i]? = some name ∧
      Widest width (name.toList :: rows.map (shownAt · i)) w := by
  have bound : i < columns.length := by
    rw [← length_columnWidths width columns rows]
    exact (List.getElem?_eq_some_iff.1 h).1
  have known := List.getElem?_eq_getElem bound
  rw [getElem?_columnWidths known, Option.some_inj] at h
  exact ⟨_, known, h ▸ widest_columnWidth width _ rows i⟩

/-! ## The lines -/

theorem fills_pad {c : Cell} (h : width c.text ≤ w) :
    Fills width w c (pad width w c.isNumber c.text) := by
  have whole : width c.text + (w - width c.text) = w := Nat.add_sub_of_le h
  obtain ⟨text, _ | _⟩ := c
  · exact .other whole
  · exact .number whole

theorem line_of_fits {α : Type} {columnWidth : α → Nat} {cell : α → Cell} {as : List α}
    (h : ∀ a ∈ as, width (cell a).text ≤ columnWidth a) :
    Line width (as.map columnWidth) (as.map cell)
      (as.flatMap (fun a =>
        framed (pad width (columnWidth a) (cell a).isNumber (cell a).text)) ++ lineEnd) := by
  induction as with
  | nil => exact .ending
  | cons a as ih =>
    obtain ⟨first, others⟩ := List.forall_mem_cons.1 h
    have line := Line.cell (fills_pad first) (ih others)
    simpa [framed] using line

theorem line_header (width : List Char → Nat) (columns : List String) (rows : List (List Json)) :
    Line width (columnWidths width columns rows) (columns.map Cell.ofName)
      (header width columns (columnWidths width columns rows)) := by
  have length := length_columnWidths width columns rows
  have fits : ∀ a ∈ columns.zip (columnWidths width columns rows),
      width (Cell.ofName a.1).text ≤ a.2 := by
    intro a ha
    obtain ⟨i, hi⟩ := List.getElem?_of_mem ha
    obtain ⟨named, wide⟩ := List.getElem?_zip_eq_some.1 hi
    rw [getElem?_columnWidths named, Option.some_inj] at wide
    exact wide ▸ (widest_columnWidth width _ rows i).2 _ List.mem_cons_self
  have line := line_of_fits fits
  have widths := List.map_snd_zip (Nat.le_of_eq length)
  have names : (columns.zip (columnWidths width columns rows)).map (fun a => Cell.ofName a.1) =
      columns.map Cell.ofName := by
    conv_rhs => rw [← List.map_fst_zip (Nat.le_of_eq length.symm)]
    rw [List.map_map]
    rfl
  rwa [widths, names] at line

theorem rowCell_eq (width : List Char → Nat) (row : List Json) (w i : Nat) :
    rowCell width row w i =
      framed (pad width w (cellAt row i).isNumber (cellAt row i).text) := by
  have number : (cellOf row i).isNumber = (cellAt row i).isNumber := by
    rw [cellOf, cellAt]
    cases row[i]? <;> rfl
  rw [rowCell, number, valueText_cellOf]
  rfl

theorem line_row (h : row ∈ rows) :
    Line width (columnWidths width columns rows) ((List.range columns.length).map (cellAt row))
      (Grid.row width (columnWidths width columns rows) row) := by
  have fits : ∀ a ∈ (columnWidths width columns rows).zipIdx,
      width (cellAt row a.2).text ≤ a.1 := by
    intro a ha
    obtain ⟨name, -, -, bound⟩ := name_of_columnWidths (List.mem_zipIdx_iff_getElem?.1 ha)
    exact bound _ (List.mem_cons_of_mem _ (List.mem_map_of_mem h))
  have line := line_of_fits fits
  have cells : (columnWidths width columns rows).zipIdx.map (fun a => cellAt row a.2) =
      (List.range columns.length).map (cellAt row) := by
    rw [← length_columnWidths width columns rows, List.range_eq_range', ← List.zipIdx_map_snd,
      List.map_map]
    rfl
  rw [List.zipIdx_map_fst, cells] at line
  simpa only [Grid.row, rowCell_eq] using line

/-! ## The grid -/

theorem aligned_columnWidths (width : List Char → Nat) (columns : List String)
    (rows : List (List Json)) :
    Aligned width columns rows (columnWidths width columns rows)
      (separator (columnWidths width columns rows))
      (header width columns (columnWidths width columns rows))
      (rows.map (Grid.row width (columnWidths width columns rows))) where
  length_widths := length_columnWidths width columns rows
  widest i name h := ⟨_, getElem?_columnWidths h, widest_columnWidth width _ rows i⟩
  dashes := rfl
  header := line_header width columns rows
  body := by
    rw [List.forall₂_map_right_iff, List.forall₂_same]
    intro row h
    exact line_row h

/-- In a grid the names and the rows stand in columns, each as wide as the widest
text in it: a text and its spaces are together just as wide as the column. -/
theorem columns_line_up (width : List Char → Nat) {columns : List String} (h : columns ≠ [])
    (rows : List (List Json)) (truncated : Bool) (milliseconds : Nat) :
    ∃ widths frame names lines, Aligned width columns rows widths frame names lines ∧
      grid width columns rows truncated milliseconds =
        frame ++ names ++ frame ++ lines.flatten ++ frame ++
          footer rows.length truncated milliseconds := by
  refine ⟨_, _, _, _, aligned_columnWidths width columns rows, ?_⟩
  rw [← flatten_parts width h]
  simp [parts]

/-- Characters of two columns each, a row that is too short and one that is too long. -/
theorem columns_line_up_ragged :
    ["id", "名前"] ≠ [] ∧
    ∃ widths frame names lines,
      Aligned Text.width ["id", "名前"] [[.int 12345], [.text "a", .text "日本語", .int 0]]
        widths frame names lines ∧
      ["+-------+--------+\n", "| id    | 名前   |\n", "+-------+--------+\n",
        "| 12345 | NULL   |\n", "| a     | 日本語 |\n", "+-------+--------+\n",
        "2 rows in set (0.01 sec)\n"].flatMap String.toList =
          frame ++ names ++ frame ++ lines.flatten ++ frame ++ footer 2 false 12 := by
  have h : ["id", "名前"] ≠ [] := by decide
  refine ⟨h, ?_⟩
  obtain ⟨widths, frame, names, lines, aligned, whole⟩ := columns_line_up Text.width h
    [[.int 12345], [.text "a", .text "日本語", .int 0]] false 12
  refine ⟨widths, frame, names, lines, aligned, Eq.trans ?_ whole⟩
  decide +kernel

end QueryGate.Render.Grid
