import QueryGate.Json.Value
/-!
# Indexes

The server describes an index by one row for each of its columns. The rows of
several indexes may be mixed.
-/

namespace QueryGate.Schema

/-- A column of an index. -/
structure IndexPart where
  index : String
  /-- The place of the column in the index. -/
  position : Nat
  /-- None for an expression. -/
  column : Option String
  nonUnique : Bool
  type : Option String
  deriving Repr, DecidableEq

structure Index where
  name : String
  columns : List String
  isUnique : Bool
  isPrimary : Bool
  type : Option String
  deriving Repr, DecidableEq

namespace Index

def primaryName : String := "PRIMARY"

def labelOf (p : IndexPart) : String := p.column.getD "(expression)"

/-- An index whose rows are still read, with its columns so far and their
places. -/
structure Draft where
  index : Index
  columns : List (Nat × String)
  deriving Repr, DecidableEq

namespace Draft

/-- An index without columns. What holds for the whole index is taken from its
first row. -/
def start (p : IndexPart) : Draft :=
  let isPrimary := p.index == primaryName
  { index :=
      { name := p.index, columns := [], isUnique := !p.nonUnique || isPrimary, isPrimary,
        type := p.type }
    columns := [] }

def add (p : IndexPart) (d : Draft) : Draft :=
  { d with columns := d.columns ++ [(p.position, labelOf p)] }

/-- The index with its columns by their places; columns of one place stay in the
order of their rows. -/
def finish (d : Draft) : Index :=
  { d.index with columns := (d.columns.mergeSort fun a b => a.1 ≤ b.1).map Prod.snd }

end Draft

/-- Goes on with one row more: it belongs to the index of its name, which is
begun behind the others if there is none. -/
def collect (drafts : List Draft) (p : IndexPart) : List Draft :=
  match drafts.findIdx? (·.index.name == p.index) with
  | some i => drafts.modify i (Draft.add p)
  | none => drafts ++ [(Draft.start p).add p]

/-- The indexes in the order in which they first occur. -/
def group (parts : List IndexPart) : List Index :=
  (parts.foldl collect []).map Draft.finish

def toJson (i : Index) : Json :=
  .ofPresent [
    ("name", some (.text i.name)),
    ("columns", some (.list (i.columns.map .text))),
    ("is_unique", some (.bool i.isUnique)),
    ("is_primary", some (.bool i.isPrimary)),
    ("index_type", i.type.map .text)]

end Index

end QueryGate.Schema
