import QueryGate.Number.Binary
/-!
# JSON values

Objects keep their fields in the order of their keys, one field to a key.
-/

namespace QueryGate

inductive Json where
  | null
  | bool (b : Bool)
  | int (n : Int)
  /-- A number with a fraction or an exponent, or one beyond 64 bits. -/
  | real (x : Number.Binary)
  | text (s : String)
  | list (items : List Json)
  | object (fields : List (String × Json))
  deriving Repr, Inhabited

namespace Json

/-- Sets a field; a field of the same key is replaced. -/
def put (key : String) (value : Json) : List (String × Json) → List (String × Json)
  | [] => [(key, value)]
  | (k, v) :: r =>
    if key < k then (key, value) :: (k, v) :: r
    else if key = k then (key, value) :: r
    else (k, v) :: put key value r

/-- An object of the given fields; of two with one key the last counts. -/
def ofFields (fields : List (String × Json)) : Json :=
  object (fields.foldl (fun o (k, v) => put k v o) [])

/-- The field of an object. -/
def get? (key : String) : Json → Option Json
  | object fields => fields.lookup key
  | _ => none

def ofNat (n : Nat) : Json := int n

def ofOption {α : Type} (f : α → Json) : Option α → Json
  | some a => f a
  | none => null

/-- Fields, those without a value left out. -/
def ofPresent (fields : List (String × Option Json)) : Json :=
  ofFields (fields.filterMap fun (k, v) => v.map (k, ·))

def isNumber : Json → Bool
  | int _ | real _ => true
  | _ => false

end Json

end QueryGate
