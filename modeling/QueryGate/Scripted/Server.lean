import QueryGate.Query.Stream
/-!
# Scripted servers

A server whose answers are written down beforehand, one for each statement it
knows. It keeps what it receives.
-/

namespace QueryGate.Scripted

inductive Reply where
  | rows (columns : List Column) (rows : List (List RawCell))
  | error (e : ServerError)
  /-- Success without rows. -/
  | ok
  /-- No answer, ever. -/
  | silence
  deriving Repr

structure Script where
  statements : List (List Char × Reply)
  /-- What every attempt to connect is refused with. -/
  refusal : Option ServerError
  deriving Repr

/-- A statement, and the default schema it came under. -/
structure Received where
  database : Option (List Char)
  sql : List Char
  deriving Repr, DecidableEq

structure Server where
  name : String
  script : Script
  received : List Received
  deriving Repr

/-- The schema that a `USE` of a name in backticks switches to. -/
def usedSchema? (sql : List Char) : Option (List Char) :=
  (Text.after? "USE \x60".toList sql).bind (Text.before? ['\x60'])

namespace Script

/-- A statement that is not written down is an error, unless it switches the
schema. -/
def reply (s : Script) (sql : List Char) : Reply :=
  match s.statements.lookup sql with
  | some r => r
  | none =>
    if (usedSchema? sql).isSome then .ok
    else .error ⟨1064, some "42000", "unscripted: " ++ .ofList sql⟩

end Script

namespace Reply

def stream : Reply → Answer Stream
  | rows columns cells => .ok ⟨columns, cells, none⟩
  | error e => .failed (.answered e)
  | ok => .ok .empty
  | silence => .timedOut

def outcome : Reply → Answer Unit
  | error e => .failed (.answered e)
  | silence => .timedOut
  | _ => .ok ()

def isSuccess (r : Reply) : Bool :=
  match r with
  | rows .. | ok => true
  | _ => false

end Reply

end QueryGate.Scripted
