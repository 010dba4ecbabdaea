import QueryGate.Error
import QueryGate.Rows.Column
/-!
# Streams of rows

What a statement brings back: rows, one after the other, until the end or a
failure.
-/

namespace QueryGate

/-- What comes of waiting for the server. -/
inductive Answer (α : Type) where
  | ok (a : α)
  | failed (f : Failure)
  | timedOut
  deriving Repr

structure Stream where
  columns : List Column
  rows : List (List RawCell)
  /-- What ends the stream after its rows, if it does not end well. -/
  fault : Option Failure
  deriving Repr, DecidableEq

namespace Stream

def empty : Stream := ⟨[], [], none⟩

/-- The rows up to a number of them. A failure counts only if it comes before
that many rows are read. -/
def upTo (s : Stream) (n : Nat) : Except Failure (List (List RawCell)) :=
  if n ≤ s.rows.length then .ok (s.rows.take n)
  else
    match s.fault with
    | some f => .error f
    | none => .ok s.rows

/-- All rows. -/
def all (s : Stream) : Except Failure (List (List RawCell)) :=
  match s.fault with
  | some f => .error f
  | none => .ok s.rows

/-- The values of a row. -/
def values (s : Stream) (row : List RawCell) : List Json :=
  (s.columns.zip row).map fun (c, cell) => (Column.cell c.type cell).normalize

end Stream

end QueryGate
