import QueryGate.Gate.Fragment
import QueryGate.Number.Text
/-!
# Vector search

A statement that orders the rows of a table by the distance of a vector column
from a given vector. All that a caller gives goes through a check on its way
into it.
-/

namespace QueryGate.Vector

open QueryGate.Sql (Identifier.quote Identifier.quoteQualified)

inductive Distance where
  | cosine
  | euclidean
  | dot
  deriving Repr, DecidableEq

def Distance.text : Distance → String
  | cosine => "COSINE"
  | euclidean => "EUCLIDEAN"
  | dot => "DOT"

structure Search where
  database : List Char
  table : List Char
  column : List Char
  vector : List Number.Binary
  limit : Option Nat
  select : Option (List Char)
  filter : Option (List Char)
  distance : Distance
  deriving Repr

def defaultLimit : Nat := 10

def greatestLimit : Nat := 1000

/-- The rows asked for, at most `greatestLimit`; none or zero is the default. -/
def effectiveLimit (requested : Option Nat) : Nat :=
  match requested with
  | none | some 0 => defaultLimit
  | some n => min n greatestLimit

/-- The vector as the text the server reads. -/
def literal (components : List Number.Binary) : Except Error (List Char) :=
  if components.isEmpty then .error (.invalidInput "query_vector must not be empty")
  else
    match components.findIdx? (!·.isFinite) with
    | some i =>
      .error (.invalidInput
        ("query_vector component " ++ toString i ++ " is not a finite number"))
    | none => .ok ('[' :: Text.joinWith [','] (components.map Number.singleText) ++ [']'])

/-- The column of the result that holds the distance. -/
def distanceColumn : List Char := "_distance".toList

/-- The statement up to its filter. -/
def selection (items column vector : List Char) (distance : Distance) (target : List Char) :
    List Char :=
  "SELECT ".toList ++ items ++ ", DISTANCE(".toList ++ column ++ ", STRING_TO_VECTOR('".toList ++
    vector ++ "'), '".toList ++ distance.text.toList ++ "') AS ".toList ++ distanceColumn ++
    " FROM ".toList ++ target

/-- A filter that is not blank, once it is checked. -/
def filterClause (filter : Option (List Char)) : Except Error (List Char) :=
  match filter with
  | none => .ok []
  | some text =>
    let body := Text.trim text
    match Gate.Fragment.checkFilter body with
    | .error e => .error e
    | .ok () => .ok (if body.isEmpty then [] else " WHERE ".toList ++ body)

/-- The end of the statement. -/
def ordering (limit : Nat) : List Char :=
  " ORDER BY ".toList ++ distanceColumn ++ " ASC LIMIT ".toList ++ Number.digitsOf limit

/-- The whole statement. -/
def Search.statement (s : Search) : Except Error (List Char) := do
  let target ← Identifier.quoteQualified s.database s.table
  let column ← Identifier.quote s.column
  let items ← Gate.Fragment.selectList (s.select.getD [])
  let vector ← literal s.vector
  let filter ← filterClause s.filter
  return selection items column vector s.distance target ++ filter ++
    ordering (effectiveLimit s.limit)

end QueryGate.Vector
