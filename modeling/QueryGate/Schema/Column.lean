import QueryGate.Json.Value
/-!
# Columns of a table

What the server tells about a column.
-/

namespace QueryGate.Schema

structure ColumnDefinition where
  name : String
  dataType : String
  nullable : Bool
  /-- The kind of key the column belongs to; empty for none. -/
  key : String
  defaultValue : Option String
  extra : Option String
  collation : Option String
  comment : Option String
  deriving Repr, DecidableEq

namespace ColumnDefinition

def isPrimaryKey (c : ColumnDefinition) : Bool := c.key == "PRI"

def toJson (c : ColumnDefinition) : Json :=
  .ofPresent [
    ("name", some (.text c.name)),
    ("data_type", some (.text c.dataType)),
    ("nullable", some (.bool c.nullable)),
    ("key", if c.key.isEmpty then none else some (.text c.key)),
    ("default_value", c.defaultValue.map .text),
    ("extra", c.extra.map .text),
    ("collation", c.collation.map .text),
    ("comment", c.comment.map .text)]

end ColumnDefinition

end QueryGate.Schema
