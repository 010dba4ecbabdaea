import QueryGate.Proofs.OneLine
import QueryGate.Proofs.Text.Cut
/-!
# Reading a Markdown table

In a line of a Markdown table a bar begins a new cell, unless a backslash stands
directly in front of it. A cell has a space on each side of its text. Backslashes
are not escaped, and need not be: the only bars of a cell are those that were
given a backslash, and the bar behind a cell has a space in front of it, so a
backslash at the end of a text does not reach it. Therefore `readRow` finds the
texts again, with spaces where they had line feeds.
-/

namespace QueryGate.Render.Markdown

open Text (lengthened)

variable {held : Bool} {c : Char} {s p : List Char} {ps : List (List Char)}

/-! ## Reading a line -/

/-- The text between the bars; `held` says that a backslash stands in front, and
so the bar that comes next does not count. -/
def barPieces (held : Bool) : List Char → List (List Char)
  | [] => [[]]
  | c :: s =>
    if c = '|' ∧ held = false then [] :: barPieces false s
    else lengthened c (barPieces (c == '\\') s)

/-- A text with bars for the escaped ones. -/
def unescaped : List Char → List Char
  | [] => []
  | '\\' :: '|' :: s => '|' :: unescaped s
  | c :: s => c :: unescaped s

/-- The text of a cell, if there is a space on each side of it. -/
def readCell (cell : List Char) : Option (List Char) :=
  ((Text.after? [' '] cell).bind (Text.before? [' '])).map unescaped

/-- The texts of a line that begins and ends with a bar. -/
def readRow (line : List Char) : Option (List (List Char)) :=
  match barPieces false line with
  | [] :: cells => if cells.getLast? = some [] then cells.dropLast.mapM readCell else none
  | _ => none

/-- A text as it can be shown on one line. -/
def flat (text : List Char) : List Char := text.map fun c => if c = '\n' then ' ' else c

/-! ## Escaping and unescaping -/

theorem escaped_nil : escaped [] = [] := rfl

theorem escaped_cons (c : Char) (t : List Char) :
    escaped (c :: t) = escapedChar c ++ escaped t := List.flatMap_cons

theorem escapedChar_bar : escapedChar '|' = ['\\', '|'] := rfl

theorem escapedChar_lineFeed : escapedChar '\n' = [' '] := rfl

theorem escapedChar_of_ne {c : Char} (bar : c ≠ '|') (feed : c ≠ '\n') : escapedChar c = [c] := by
  rw [escapedChar, if_neg bar, if_neg feed]

/-- A character in front of an escaped text does not become the backslash of a bar. -/
theorem head?_escaped (t : List Char) : (escaped t).head? ≠ some '|' := by
  cases t with
  | nil => simp [escaped]
  | cons c t =>
    rw [escaped_cons]
    by_cases bar : c = '|'
    · simp [bar, escapedChar_bar]
    by_cases feed : c = '\n'
    · simp [feed, escapedChar_lineFeed]
    · simp [escapedChar_of_ne bar feed, bar]

theorem unescaped_cons (h : s.head? ≠ some '|') : unescaped (c :: s) = c :: unescaped s := by
  rw [unescaped.eq_def]
  split
  · next same => cases same
  · next same =>
    cases same
    exact absurd rfl h
  · next same =>
    cases same
    rfl

theorem unescaped_escaped (t : List Char) : unescaped (escaped t) = flat t := by
  induction t with
  | nil => rfl
  | cons c t ih =>
    rw [escaped_cons, flat, List.map_cons, ← flat, ← ih]
    by_cases bar : c = '|'
    · simp [bar, escapedChar_bar, unescaped]
    by_cases feed : c = '\n'
    · simp [feed, escapedChar_lineFeed, unescaped_cons (head?_escaped t)]
    · simp [escapedChar_of_ne bar feed, unescaped_cons (head?_escaped t), feed]

theorem readCell_escaped (t : List Char) : readCell (' ' :: (escaped t ++ [' '])) = some (flat t) := by
  have front : Text.after? [' '] (' ' :: (escaped t ++ [' '])) = some (escaped t ++ [' ']) :=
    Text.after?_eq_some.2 rfl
  have back : Text.before? [' '] (escaped t ++ [' ']) = some (escaped t) :=
    Text.before?_eq_some.2 rfl
  rw [readCell, front, Option.bind_some, back, Option.map_some, unescaped_escaped]

theorem mapM_readCell (texts : List (List Char)) :
    (texts.map fun t => ' ' :: (escaped t ++ [' '])).mapM readCell = some (texts.map flat) := by
  induction texts with
  | nil => rfl
  | cons t texts ih => simp [readCell_escaped, ih]

/-! ## Bars of a row -/

theorem barPieces_bar (s : List Char) : barPieces false ('|' :: s) = [] :: barPieces false s := rfl

theorem barPieces_other (h : c ≠ '|') (held : Bool) (s : List Char) :
    barPieces held (c :: s) = lengthened c (barPieces (c == '\\') s) := by
  rw [barPieces, if_neg fun both => h both.1]

theorem barPieces_space (held : Bool) (s : List Char) :
    barPieces held (' ' :: s) = lengthened ' ' (barPieces false s) :=
  barPieces_other (by decide) held s

theorem barPieces_escapedBar (held : Bool) (s : List Char) :
    barPieces held ('\\' :: '|' :: s) = lengthened '\\' (lengthened '|' (barPieces false s)) :=
  barPieces_other (by decide) held ('|' :: s)

/-- No bar of an escaped text counts, and a backslash at its end holds the space
behind it. -/
theorem barPieces_escaped (h : barPieces false s = p :: ps) (held : Bool) (t : List Char) :
    barPieces held (escaped t ++ ' ' :: s) = (escaped t ++ ' ' :: p) :: ps := by
  induction t generalizing held with
  | nil =>
    rw [escaped_nil, List.nil_append, barPieces_space, h]
    rfl
  | cons c t ih =>
    rw [escaped_cons, List.append_assoc, List.append_assoc]
    by_cases bar : c = '|'
    · rw [bar, escapedChar_bar, List.cons_append, List.singleton_append, barPieces_escapedBar, ih]
      rfl
    by_cases feed : c = '\n'
    · rw [feed, escapedChar_lineFeed, List.singleton_append, barPieces_space, ih]
      rfl
    · rw [escapedChar_of_ne bar feed, List.singleton_append, barPieces_other bar, ih]
      rfl

/-- The line of a row, without its line feed. -/
def rowLine (texts : List (List Char)) : List Char :=
  texts.flatMap (fun t => framed (escaped t)) ++ ['|']

theorem rowLine_cons (t : List Char) (texts : List (List Char)) :
    rowLine (t :: texts) = '|' :: ' ' :: (escaped t ++ ' ' :: rowLine texts) := by
  simp [rowLine, framed]

theorem barPieces_rowLine (texts : List (List Char)) :
    barPieces false (rowLine texts) =
      [] :: ((texts.map fun t => ' ' :: (escaped t ++ [' '])) ++ [[]]) := by
  induction texts with
  | nil => rfl
  | cons t texts ih =>
    rw [rowLine_cons, barPieces_bar, barPieces_space, barPieces_escaped ih]
    rfl

theorem readRow_rowLine (texts : List (List Char)) :
    readRow (rowLine texts) = some (texts.map flat) := by
  rw [readRow, barPieces_rowLine]
  dsimp only
  rw [if_pos List.getLast?_concat, List.dropLast_concat, mapM_readCell]

/-! ## Lines of a table -/

theorem lineFeed_notMem_rowLine (texts : List (List Char)) : '\n' ∉ rowLine texts := by
  induction texts with
  | nil => decide
  | cons t texts ih => simp [rowLine_cons, lineFeed_notMem_escaped t, ih]

theorem header_eq (columns : List String) :
    header columns = rowLine (columns.map String.toList) ++ ['\n'] := by
  simp [header, rowLine, lineEnd, List.flatMap_map]

theorem row_eq (count : Nat) (values : List Json) :
    row count values = rowLine (cellTexts count values) ++ ['\n'] := by
  simp [row, rowLine, lineEnd, cellTexts, List.flatMap_map]

/-- The line below the names, without its line feed. -/
def barLine (columns : List String) : List Char :=
  columns.flatMap (fun _ => "|---".toList) ++ ['|']

theorem lineFeed_notMem_barLine (columns : List String) : '\n' ∉ barLine columns := by
  simp [barLine]

theorem pieces_markdown {columns : List String} (h : columns ≠ []) (rows : List (List Json))
    (truncated : Bool) :
    Text.pieces '\n' (markdown columns rows truncated) =
      rowLine (columns.map String.toList) :: barLine columns ::
        (rows.map fun row => rowLine (cellTexts columns.length row)) ++
          [[], note rows.length truncated] := by
  let lines := [rowLine (columns.map String.toList), barLine columns] ++
    (rows.map fun row => rowLine (cellTexts columns.length row)) ++ [[]]
  have whole : (parts columns rows).flatten = lines.flatMap fun line => line ++ ['\n'] := by
    have bars : delimiter columns = barLine columns ++ ['\n'] := by
      simp [delimiter, barLine, lineEnd]
    have each : row columns.length = fun values =>
        rowLine (cellTexts columns.length values) ++ ['\n'] := funext (row_eq _)
    simp [parts, lines, header_eq, bars, each, List.flatMap_def, Function.comp_def]
  have one : ∀ line ∈ lines, '\n' ∉ line := by
    simp only [lines, List.forall_mem_append, List.forall_mem_cons, List.forall_mem_map]
    refine ⟨⟨⟨lineFeed_notMem_rowLine _, lineFeed_notMem_barLine columns, ?_⟩, ?_⟩, ?_, ?_⟩
    · simp
    · intro row _
      exact lineFeed_notMem_rowLine _
    · simp
    · simp
  have last : '\n' ∉ note rows.length truncated := by
    intro feed
    exact absurd (shown_note _ _ _ feed) (by decide)
  rw [← flatten_parts h, whole, Text.pieces_lines one, Text.pieces_of_not_mem last]
  simp [lines]

/-- The line of the names and the lines of the rows, of which there are as many as
rows, are read back as the texts that they show, one for each column. -/
theorem rows_read_back {columns : List String} (h : columns ≠ []) (rows : List (List Json))
    (truncated : Bool) :
    ∃ names bars lines counts,
      Text.pieces '\n' (markdown columns rows truncated) =
        names :: bars :: lines ++ [[], counts] ∧
      lines.length = rows.length ∧
      readRow names = some (columns.map fun name => flat name.toList) ∧
      lines.map readRow =
        rows.map fun row => some ((List.range columns.length).map fun i => flat (shownAt row i)) := by
  refine ⟨_, _, _, _, pieces_markdown h rows truncated, List.length_map _, ?_, ?_⟩
  · rw [readRow_rowLine, List.map_map]
    rfl
  · simp [readRow_rowLine, cellTexts, valueText_cellOf]

/-- Bars and backslashes in all positions, and rows of other lengths than the names. -/
theorem rows_read_back_escapes :
    ["a\\", "x|y"] ≠ [] ∧
    ∃ names bars lines counts,
      Text.pieces '\n' (markdown ["a\\", "x|y"]
        [[.text "\\|"], [.text "|\n\\", .int 7, .bool true]] true) =
          names :: bars :: lines ++ [[], counts] ∧
      lines.length = 2 ∧
      readRow names = some (["a\\", "x|y"].map String.toList) ∧
      lines.map readRow = [some (["\\|", "NULL"].map String.toList),
        some (["| \\", "7"].map String.toList)] := by
  have h : ["a\\", "x|y"] ≠ [] := by decide
  refine ⟨h, ?_⟩
  obtain ⟨names, bars, lines, counts, whole, length, first, others⟩ :=
    rows_read_back h [[.text "\\|"], [.text "|\n\\", .int 7, .bool true]] true
  refine ⟨names, bars, lines, counts, whole, length, ?_, ?_⟩
  · rw [first]
    decide
  · rw [others]
    decide

end QueryGate.Render.Markdown
