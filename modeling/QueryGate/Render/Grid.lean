import QueryGate.Json.Print
import QueryGate.Number.Text
/-!
# Text tables

A result as a grid of cells in frames. Columns line up by a given width of
texts; numbers stand on the right, all else on the left.
-/

namespace QueryGate.Render

/-- A value as a cell shows it. -/
def valueText : Json → List Char
  | .null => "NULL".toList
  | .text s => s.toList
  | v => v.print

/-- The value of a column in a row; a short row has nulls at its end. -/
def cellOf (row : List Json) (i : Nat) : Json := row[i]?.getD .null

def spaces (n : Nat) : List Char := List.replicate n ' '

def pad (width : List Char → Nat) (columns : Nat) (onRight : Bool) (text : List Char) : List Char :=
  let fill := spaces (columns - width text)
  if onRight then fill ++ text else text ++ fill

def framed (content : List Char) : List Char := "| ".toList ++ content ++ [' ']

def lineEnd : List Char := ['|', '\n']

namespace Grid

variable (width : List Char → Nat)

/-- The width of a column: that of its widest text. -/
def columnWidth (name : List Char) (rows : List (List Json)) (i : Nat) : Nat :=
  rows.foldl (fun w row => max w (width (valueText (cellOf row i)))) (width name)

def columnWidths (columns : List String) (rows : List (List Json)) : List Nat :=
  columns.zipIdx.map fun (name, i) => columnWidth width name.toList rows i

def separator (widths : List Nat) : List Char :=
  widths.flatMap (fun w => '+' :: List.replicate (w + 2) '-') ++ ['+', '\n']

def header (columns : List String) (widths : List Nat) : List Char :=
  (columns.zip widths).flatMap (fun (name, w) => framed (pad width w false name.toList)) ++ lineEnd

def rowCell (row : List Json) (w i : Nat) : List Char :=
  let value := cellOf row i
  framed (pad width w value.isNumber (valueText value))

def row (widths : List Nat) (values : List Json) : List Char :=
  widths.zipIdx.flatMap (fun (w, i) => rowCell width values w i) ++ lineEnd

end Grid

/-- A time in seconds with two places. -/
def seconds (milliseconds : Nat) : List Char :=
  Number.hundredths
    ((Number.Binary.ofInt .double milliseconds).div .double (Number.Binary.ofInt .double 1000))

def footer (count : Nat) (truncated : Bool) (milliseconds : Nat) : List Char :=
  Number.digitsOf count ++ (if count = 1 then " row" else " rows").toList ++ " in set".toList ++
    (if truncated then " (truncated)" else "").toList ++ " (".toList ++ seconds milliseconds ++
    " sec)\n".toList

/-- The whole table. -/
def grid (width : List Char → Nat) (columns : List String) (rows : List (List Json))
    (truncated : Bool) (milliseconds : Nat) : List Char :=
  if columns.isEmpty then "Empty set".toList
  else
    let widths := Grid.columnWidths width columns rows
    let separator := Grid.separator widths
    separator ++ Grid.header width columns widths ++ separator ++
      rows.flatMap (Grid.row width widths) ++ separator ++
      footer rows.length truncated milliseconds

end QueryGate.Render
