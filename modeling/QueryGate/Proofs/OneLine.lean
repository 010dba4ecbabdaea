import QueryGate.Proofs.Json
import QueryGate.Proofs.Text.Lines
import QueryGate.Render.Markdown
import QueryGate.Text.Width
/-!
# Lines of a table

A table is made of rows, each of which ends with a line feed. A row has the line
ends of the texts that it shows, and one more. So a row is one line exactly if no
text in it ends a line. The grid shows texts as they are. A Markdown table has
blanks in place of line feeds, but carriage returns stay in it.
-/

namespace QueryGate.Render

open Text (lineEnds lines IsRow IsShown Shown lineEnds_append lineEnds_eq_zero)

variable {columns : List String} {rows : List (List Json)}

/-! ## Texts that are shown -/

/-- The cells of a row that have a column. -/
def cellTexts (count : Nat) (row : List Json) : List (List Char) :=
  (List.range count).map fun i => valueText (cellOf row i)

/-- The text in a column of a row; a short row has nulls at its end. -/
def shownAt (row : List Json) (i : Nat) : List Char :=
  match row[i]? with
  | some v => valueText v
  | none => "NULL".toList

theorem valueText_cellOf (row : List Json) (i : Nat) : valueText (cellOf row i) = shownAt row i := by
  rw [cellOf, shownAt]
  cases row[i]? <;> rfl

/-- The names of the columns, and the cells below them. -/
def shownTexts (columns : List String) (rows : List (List Json)) : List (List Char) :=
  columns.map String.toList ++ rows.flatMap (cellTexts columns.length)

/-- Neither a column's name nor a text below it has one of the characters. -/
def FreeOf (marks : List Char) (columns : List String) (rows : List (List Json)) : Prop :=
  (∀ name ∈ columns, ∀ c ∈ marks, c ∉ name.toList) ∧
    ∀ row ∈ rows, ∀ s, Json.text s ∈ row.take columns.length → ∀ c ∈ marks, c ∉ s.toList

/-- Only a text can have control characters. -/
theorem shown_valueText {v : Json} (h : ∀ s, v ≠ .text s) : Shown (valueText v) := by
  cases v with
  | null => decide
  | text s => exact absurd rfl (h s)
  | bool | int | real | list | object => exact Json.shown_print _

theorem freeOf_iff {marks : List Char} (control : ∀ c ∈ marks, ¬ IsShown c) :
    FreeOf marks columns rows ↔ ∀ t ∈ shownTexts columns rows, ∀ c ∈ marks, c ∉ t := by
  constructor
  · rintro ⟨names, texts⟩ t ht c hc
    rcases List.mem_append.1 ht with named | cell
    · obtain ⟨name, hname, rfl⟩ := List.mem_map.1 named
      exact names name hname c hc
    · obtain ⟨row, hrow, cell⟩ := List.mem_flatMap.1 cell
      obtain ⟨i, hi, rfl⟩ := List.mem_map.1 cell
      by_cases known : ∃ s, cellOf row i = .text s
      · obtain ⟨s, hs⟩ := known
        rw [hs]
        apply texts row hrow s _ c hc
        cases value : row[i]? with
        | none => simp [cellOf, value] at hs
        | some v =>
          rw [cellOf, value, Option.getD_some] at hs
          subst hs
          apply List.mem_of_getElem? (i := i)
          rw [List.getElem?_take, if_pos (List.mem_range.1 hi), value]
      · intro hmem
        apply control c hc
        exact shown_valueText (fun s hs => known ⟨s, hs⟩) c hmem
  · intro all
    refine ⟨?_, ?_⟩
    · intro name hname
      exact all _ (List.mem_append_left _ (List.mem_map_of_mem hname))
    · intro row hrow s hs
      obtain ⟨i, hi, value⟩ := List.mem_take_iff_getElem.1 hs
      rw [Nat.lt_min] at hi
      have cell : valueText (cellOf row i) = s.toList := by
        rw [cellOf, List.getElem?_eq_getElem hi.2, Option.getD_some, value]
        rfl
      rw [← cell]
      apply all
      refine List.mem_append_right _ (List.mem_flatMap.2 ⟨row, hrow, ?_⟩)
      exact List.mem_map.2 ⟨i, List.mem_range.2 hi.1, rfl⟩

/-! ## Cells and rows -/

theorem lineEnds_spaces (n : Nat) : lineEnds (spaces n) = 0 := by
  rw [lineEnds_eq_zero]
  simp [spaces]

theorem lineEnds_pad (width : List Char → Nat) (columns : Nat) (onRight : Bool) (t : List Char) :
    lineEnds (pad width columns onRight t) = lineEnds t := by
  unfold pad
  dsimp only
  generalize columns - width t = n
  have first : (spaces n).head? ≠ some '\n' := by
    rw [spaces, List.head?_replicate]
    split <;> simp
  have last : (spaces n).getLast? ≠ some '\r' := by
    rw [spaces, List.getLast?_replicate]
    split <;> simp
  split
  · rw [lineEnds_append (.inl last), lineEnds_spaces, Nat.zero_add]
  · rw [lineEnds_append (.inr first), lineEnds_spaces, Nat.add_zero]

theorem lineEnds_framed (t : List Char) : lineEnds (framed t) = lineEnds t := by
  have lead : ("| ".toList).getLast? ≠ some '\r' := by decide
  have tail : [' '].head? ≠ some '\n' := by decide
  have none : lineEnds "| ".toList = 0 ∧ lineEnds [' '] = 0 := by decide
  rw [framed, lineEnds_append (.inr tail), lineEnds_append (.inl lead), none.1, none.2]
  omega

theorem isRow_lineEnd (s : List Char) : IsRow (s ++ lineEnd) :=
  ⟨s ++ ['|'], by simp [lineEnd], by simp⟩

/-- A row of framed texts. -/
theorem lineEnds_framedRow {α : Type} (as : List α) (text : α → List Char) :
    lineEnds (as.flatMap (fun a => framed (text a)) ++ lineEnd) =
      (as.map fun a => lineEnds (text a)).sum + 1 := by
  have first : lineEnd.head? ≠ some '\n' := by decide
  have begins : ∀ a ∈ as, (framed (text a)).head? ≠ some '\n' ∧ framed (text a) ≠ [] := by
    intro a _
    simp [framed]
  have last : lineEnds lineEnd = 1 := by decide
  rw [lineEnds_append (.inr first), Text.lineEnds_flatMap as begins, last]
  simp only [lineEnds_framed]

/-- Row by row, what the cells count for and one more. -/
theorem sum_cells (ends : List Char → Nat) (count : Nat) (rows : List (List Json)) :
    (rows.map fun row => ((cellTexts count row).map ends).sum + 1).sum =
      rows.length + ((rows.flatMap (cellTexts count)).map ends).sum := by
  induction rows with
  | nil => rfl
  | cons row rows ih =>
    rw [List.map_cons, List.sum_cons, ih, List.flatMap_cons, List.map_append, List.sum_append,
      List.length_cons]
    omega

theorem sum_eq_zero (ends : List Char → Nat) (texts : List (List Char)) :
    (texts.map ends).sum = 0 ↔ ∀ t ∈ texts, ends t = 0 := by
  rw [List.sum_eq_zero_iff_forall_eq_nat, List.forall_mem_map]

/-! ## Rows that show no value -/

/-- A row without control characters. -/
def IsPlainRow (s : List Char) : Prop := ∃ body, s = body ++ ['\n'] ∧ Shown body

theorem lineEnds_shown {t : List Char} (h : Shown t) : lineEnds t = 0 := by
  rw [lineEnds_eq_zero]
  constructor
  · intro feed
    exact absurd (h _ feed) (by decide)
  · intro back
    exact absurd (h _ back) (by decide)

theorem getLast?_shown {t : List Char} (h : Shown t) : t.getLast? ≠ some '\r' := by
  intro back
  exact absurd (h _ (List.mem_of_getLast? back)) (by decide)

theorem IsPlainRow.isRow {s : List Char} (h : IsPlainRow s) : IsRow s := by
  obtain ⟨body, rfl, shown⟩ := h
  exact ⟨body, rfl, getLast?_shown shown⟩

theorem IsPlainRow.lineEnds {s : List Char} (h : IsPlainRow s) : lineEnds s = 1 := by
  obtain ⟨body, rfl, shown⟩ := h
  rw [Text.lineEnds_row (getLast?_shown shown), lineEnds_shown shown]

theorem isPlainRow_separator (widths : List Nat) : IsPlainRow (Grid.separator widths) := by
  refine ⟨widths.flatMap (fun w => '+' :: List.replicate (w + 2) '-') ++ ['+'],
    by simp [Grid.separator], ?_⟩
  have cross : IsShown '+' := by decide
  have dashes (n : Nat) : Shown (List.replicate n '-') := by
    intro c hc
    rw [List.eq_of_mem_replicate hc]
    decide
  simp [Text.shown_flatMap, cross, dashes]

theorem isPlainRow_footer (count : Nat) (truncated : Bool) (milliseconds : Nat) :
    IsPlainRow (footer count truncated milliseconds) := by
  have last : " sec)\n".toList = " sec)".toList ++ ['\n'] := by decide
  refine ⟨_, by rw [footer, last, ← List.append_assoc], ?_⟩
  have words : Shown (if count = 1 then " row" else " rows").toList := by split <;> decide
  have flag : Shown (if truncated then " (truncated)" else "").toList := by
    cases truncated <;> decide
  simp only [Text.shown_append]
  refine ⟨⟨⟨⟨⟨⟨Number.shown_digitsOf count, words⟩, ?_⟩, flag⟩, ?_⟩, Number.shown_hundredths _⟩, ?_⟩
  all_goals decide

theorem isPlainRow_delimiter (columns : List String) :
    IsPlainRow (Markdown.delimiter columns) := by
  refine ⟨columns.flatMap (fun _ => "|---".toList) ++ ['|'],
    by simp [Markdown.delimiter, lineEnd], ?_⟩
  rw [Text.shown_append, Text.shown_flatMap]
  exact ⟨fun _ _ => by decide, by decide⟩

/-! ## The grid -/

namespace Grid

variable (width : List Char → Nat)

theorem length_columnWidths (columns : List String) (rows : List (List Json)) :
    (columnWidths width columns rows).length = columns.length := by
  simp [columnWidths]

theorem lineEnds_header {columns : List String} {widths : List Nat}
    (h : columns.length ≤ widths.length) :
    lineEnds (header width columns widths) =
      ((columns.map String.toList).map lineEnds).sum + 1 := by
  have names : (columns.zip widths).map (fun c => lineEnds c.1.toList) =
      (columns.map String.toList).map lineEnds := by
    conv_rhs => rw [← List.map_fst_zip h]
    simp
  rw [header, lineEnds_framedRow]
  simp only [lineEnds_pad, names]

theorem lineEnds_row (widths : List Nat) (values : List Json) :
    lineEnds (row width widths values) =
      ((cellTexts widths.length values).map lineEnds).sum + 1 := by
  have cells : (widths.zipIdx.map fun c => lineEnds (valueText (cellOf values c.2))) =
      (cellTexts widths.length values).map lineEnds := by
    rw [cellTexts, List.range_eq_range', ← List.zipIdx_map_snd, List.map_map, List.map_map]
    rfl
  rw [row]
  simp only [rowCell]
  rw [lineEnds_framedRow]
  simp only [lineEnds_pad, cells]

/-- What a grid is made of, from its first frame to the line of the counts. -/
def parts (columns : List String) (rows : List (List Json)) (truncated : Bool)
    (milliseconds : Nat) : List (List Char) :=
  let widths := columnWidths width columns rows
  [separator widths, header width columns widths, separator widths] ++
    rows.map (row width widths) ++
    [separator widths, footer rows.length truncated milliseconds]

theorem flatten_parts (h : columns ≠ []) (rows : List (List Json)) (truncated : Bool)
    (milliseconds : Nat) :
    (parts width columns rows truncated milliseconds).flatten =
      grid width columns rows truncated milliseconds := by
  have filled : columns.isEmpty = false := by simpa using h
  simp [parts, grid, filled, List.flatMap_def]

theorem length_parts (columns : List String) (rows : List (List Json)) (truncated : Bool)
    (milliseconds : Nat) :
    (parts width columns rows truncated milliseconds).length = rows.length + 5 := by
  simp [parts]

theorem isRow_parts (columns : List String) (rows : List (List Json)) (truncated : Bool)
    (milliseconds : Nat) :
    ∀ part ∈ parts width columns rows truncated milliseconds, IsRow part := by
  have frame := (isPlainRow_separator (columnWidths width columns rows)).isRow
  have counts := (isPlainRow_footer rows.length truncated milliseconds).isRow
  simp only [parts, List.forall_mem_append, List.forall_mem_cons, List.forall_mem_map]
  refine ⟨⟨⟨frame, isRow_lineEnd _, frame, by simp⟩, ?_⟩, frame, counts, by simp⟩
  intro values _
  exact isRow_lineEnd _

theorem lineEnds_parts (columns : List String) (rows : List (List Json)) (truncated : Bool)
    (milliseconds : Nat) :
    ((parts width columns rows truncated milliseconds).map lineEnds).sum =
      rows.length + 5 + ((shownTexts columns rows).map lineEnds).sum := by
  have widths := length_columnWidths width columns rows
  have enough : columns.length ≤ (columnWidths width columns rows).length := Nat.le_of_eq widths.symm
  have frame := (isPlainRow_separator (columnWidths width columns rows)).lineEnds
  have counts := (isPlainRow_footer rows.length truncated milliseconds).lineEnds
  have cells := sum_cells lineEnds columns.length rows
  have middle : ((rows.map (row width (columnWidths width columns rows))).map lineEnds) =
      rows.map fun row => ((cellTexts columns.length row).map lineEnds).sum + 1 := by
    simp only [List.map_map, Function.comp_def, lineEnds_row, widths]
  simp only [parts, shownTexts, List.map_append, List.map_cons, List.map_nil, List.sum_append,
    List.sum_cons, List.sum_nil, lineEnds_header width enough, frame, counts, middle, cells]
  omega

end Grid

/-! ## Markdown -/

namespace Markdown

theorem lineFeed_notMem_escaped (t : List Char) : '\n' ∉ escaped t := by
  intro feed
  obtain ⟨c, -, hc⟩ := List.mem_flatMap.1 feed
  unfold escapedChar at hc
  split at hc
  · simp at hc
  · split at hc
    · simp at hc
    · next other => simp [Ne.symm other] at hc

theorem count_escaped (t : List Char) : (escaped t).count '\r' = t.count '\r' := by
  induction t with
  | nil => rfl
  | cons c t ih =>
    have one : (escapedChar c).count '\r' = [c].count '\r' := by
      unfold escapedChar
      split
      · next bar => simp [bar]
      · split
        · next feed => simp [feed]
        · rfl
    change (escapedChar c ++ escaped t).count '\r' = ([c] ++ t).count '\r'
    rw [List.count_append, List.count_append, one, ih]

/-- Line feeds are gone, and carriage returns have stayed. -/
theorem lineEnds_escaped (t : List Char) : lineEnds (escaped t) = t.count '\r' := by
  rw [Text.lineEnds_eq_count (lineFeed_notMem_escaped t), count_escaped]

theorem lineEnds_header (columns : List String) :
    lineEnds (header columns) = ((columns.map String.toList).map (·.count '\r')).sum + 1 := by
  rw [header, lineEnds_framedRow]
  simp only [lineEnds_escaped, List.map_map, Function.comp_def]

theorem lineEnds_row (count : Nat) (values : List Json) :
    lineEnds (row count values) = ((cellTexts count values).map (·.count '\r')).sum + 1 := by
  rw [row, lineEnds_framedRow]
  simp only [lineEnds_escaped, cellTexts, List.map_map, Function.comp_def]

/-- What a table is made of, down to the blank line. -/
def parts (columns : List String) (rows : List (List Json)) : List (List Char) :=
  [header columns, delimiter columns] ++ rows.map (row columns.length) ++ [['\n']]

/-- The line of the counts, below the blank line. -/
def note (count : Nat) (truncated : Bool) : List Char := (footer count truncated).tail

theorem shown_note (count : Nat) (truncated : Bool) : Shown (note count truncated) := by
  have words : Shown " rows*".toList := by decide
  have flag : Shown (if truncated then " *(truncated)*" else "").toList := by
    cases truncated <;> decide
  change Shown ('*' :: (Number.digitsOf count ++ " rows*".toList ++ _))
  simp only [Text.shown_cons, Text.shown_append]
  exact ⟨by decide, ⟨Number.shown_digitsOf count, words⟩, flag⟩

theorem flatten_parts (h : columns ≠ []) (rows : List (List Json)) (truncated : Bool) :
    (parts columns rows).flatten ++ note rows.length truncated =
      markdown columns rows truncated := by
  have filled : columns.isEmpty = false := by simpa using h
  simp [parts, note, markdown, footer, filled, List.flatMap_def]

theorem length_parts (columns : List String) (rows : List (List Json)) :
    (parts columns rows).length = rows.length + 3 := by
  simp [parts]

theorem isRow_parts (columns : List String) (rows : List (List Json)) :
    ∀ part ∈ parts columns rows, IsRow part := by
  simp only [parts, List.forall_mem_append, List.forall_mem_cons, List.forall_mem_map]
  refine ⟨⟨⟨isRow_lineEnd _, (isPlainRow_delimiter columns).isRow, by simp⟩, ?_⟩, ?_, by simp⟩
  · intro values _
    exact isRow_lineEnd _
  · exact ⟨[], rfl, by simp⟩

theorem lineEnds_parts (columns : List String) (rows : List (List Json)) :
    ((parts columns rows).map lineEnds).sum =
      rows.length + 3 + ((shownTexts columns rows).map (·.count '\r')).sum := by
  have bars := (isPlainRow_delimiter columns).lineEnds
  have blank : lineEnds ['\n'] = 1 := by decide
  have cells := sum_cells (·.count '\r') columns.length rows
  have middle : ((rows.map (row columns.length)).map lineEnds) =
      rows.map fun row => ((cellTexts columns.length row).map (·.count '\r')).sum + 1 := by
    simp only [List.map_map, Function.comp_def, lineEnds_row]
  simp only [parts, shownTexts, List.map_append, List.map_cons, List.map_nil, List.sum_append,
    List.sum_cons, List.sum_nil, lineEnds_header, bars, blank, middle, cells]
  omega

end Markdown

/-! ## One line for each row -/

/-- The rows are the lines exactly if no text that is shown ends a line; in a grid a
text does so at each line feed or carriage return, in a Markdown table only at a
carriage return. Every line end of a text makes one line more. -/
theorem lines_exact (width : List Char → Nat) {columns : List String} (h : columns ≠ [])
    (rows : List (List Json)) (truncated : Bool) (milliseconds : Nat) :
    ((lines (grid width columns rows truncated milliseconds) =
          (Grid.parts width columns rows truncated milliseconds).map List.dropLast ++ [[]] ↔
        FreeOf ['\n', '\r'] columns rows) ∧
      (lines (grid width columns rows truncated milliseconds)).length =
        rows.length + 6 + ((shownTexts columns rows).map lineEnds).sum) ∧
    ((lines (markdown columns rows truncated) =
          (Markdown.parts columns rows).map List.dropLast ++
            [Markdown.note rows.length truncated] ↔
        FreeOf ['\r'] columns rows) ∧
      (lines (markdown columns rows truncated)).length =
        rows.length + 4 + ((shownTexts columns rows).map (·.count '\r')).sum) := by
  have none : lineEnds [] = 0 := rfl
  have back : ∀ c ∈ ['\r'], ¬ IsShown c := by simp [IsShown]
  have both : ∀ c ∈ ['\n', '\r'], ¬ IsShown c := by simp [IsShown]
  have counts := lineEnds_shown (Markdown.shown_note rows.length truncated)
  have gridRows := Grid.isRow_parts width columns rows truncated milliseconds
  have markdownRows := Markdown.isRow_parts columns rows
  rw [← Grid.flatten_parts width h, ← Markdown.flatten_parts h]
  refine ⟨⟨?_, ?_⟩, ?_, ?_⟩
  · rw [← List.append_nil (List.flatten _), Text.lines_rows_iff gridRows none,
      Grid.lineEnds_parts, Grid.length_parts, Nat.add_eq_left, sum_eq_zero, freeOf_iff both]
    simp [lineEnds_eq_zero]
  · rw [← List.append_nil (List.flatten _), Text.length_lines, Text.lineEnds_rows gridRows,
      Grid.lineEnds_parts, none]
    omega
  · rw [Text.lines_rows_iff markdownRows counts, Markdown.lineEnds_parts, Markdown.length_parts,
      Nat.add_eq_left, sum_eq_zero, freeOf_iff back]
    simp [List.count_eq_zero]
  · rw [Text.length_lines, Text.lineEnds_rows markdownRows, Markdown.lineEnds_parts, counts]
    omega

theorem lines_exact_shop :
    ["id", "shop"] ≠ [] ∧
    lines (grid Text.width ["id", "shop"] [[.int 7, .text "a|b"]] false 12) =
      ["+----+------+", "| id | shop |", "+----+------+", "|  7 | a|b  |", "+----+------+",
        "1 row in set (0.01 sec)", ""].map String.toList := by
  have h : ["id", "shop"] ≠ [] := by decide
  refine ⟨h, ?_⟩
  rw [(lines_exact Text.width h [[.int 7, .text "a|b"]] false 12).1.1.2 (by simp [FreeOf])]
  decide +kernel

/-- A row that reads as two, the second with an end of its own. -/
theorem row_forged :
    lines (grid Text.width ["a"] [[.text "1 |\n| 2"]] false 0) =
      ["+---------+", "| a       |", "+---------+", "| 1 |", "| 2 |", "+---------+",
        "1 row in set (0.00 sec)", ""].map String.toList ∧
    lines (markdown ["a"] [[.text "1\r2"]] false) =
      ["| a |", "|---|", "| 1", "2 |", "", "*1 rows*"].map String.toList := by
  decide +kernel

end QueryGate.Render
