import QueryGate.Render.Grid
/-!
# Markdown tables

A result as a table of a Markdown text. A bar in a cell is escaped, and a line
feed becomes a space.
-/

namespace QueryGate.Render

namespace Markdown

def escapedChar (c : Char) : List Char :=
  if c = '|' then ['\\', '|'] else if c = '\n' then [' '] else [c]

def escaped (s : List Char) : List Char := s.flatMap escapedChar

def header (columns : List String) : List Char :=
  columns.flatMap (fun name => framed (escaped name.toList)) ++ lineEnd

def delimiter (columns : List String) : List Char :=
  columns.flatMap (fun _ => "|---".toList) ++ lineEnd

def row (count : Nat) (values : List Json) : List Char :=
  (List.range count).flatMap (fun i => framed (escaped (valueText (cellOf values i)))) ++ lineEnd

def footer (count : Nat) (truncated : Bool) : List Char :=
  "\n*".toList ++ Number.digitsOf count ++ " rows*".toList ++
    (if truncated then " *(truncated)*" else "").toList

end Markdown

def markdown (columns : List String) (rows : List (List Json)) (truncated : Bool) : List Char :=
  if columns.isEmpty then "*Empty set*".toList
  else
    Markdown.header columns ++ Markdown.delimiter columns ++
      rows.flatMap (Markdown.row columns.length) ++ Markdown.footer rows.length truncated

end QueryGate.Render
