/-!
# Cutting text at a separator

First and last occurrence of a character, pieces between separators, and
leading or inner pieces of text.
-/

namespace QueryGate.Text

/-- The parts before and after the first `sep`. -/
def cutFirst (sep : Char) : List Char → Option (List Char × List Char)
  | [] => none
  | c :: r =>
    if c = sep then some ([], r)
    else (cutFirst sep r).map fun (a, b) => (c :: a, b)

/-- The parts before and after the last `sep`. -/
def cutLast (sep : Char) : List Char → Option (List Char × List Char)
  | [] => none
  | c :: r =>
    match cutLast sep r with
    | some (a, b) => some (c :: a, b)
    | none => if c = sep then some ([], r) else none

/-- The pieces between separators; a text without `sep` is one piece. -/
def pieces (sep : Char) : List Char → List (List Char)
  | [] => [[]]
  | c :: r =>
    if c = sep then [] :: pieces sep r
    else
      match pieces sep r with
      | [] => [[c]]
      | p :: ps => (c :: p) :: ps

/-- What follows `head` in a text that begins with it. -/
def after? : (head text : List Char) → Option (List Char)
  | [], t => some t
  | _ :: _, [] => none
  | h :: hs, c :: t => if h = c then after? hs t else none

/-- What precedes `tail` in a text that ends with it. -/
def before? (tail text : List Char) : Option (List Char) :=
  (after? tail.reverse text.reverse).map List.reverse

def beginsWith (head text : List Char) : Bool := (after? head text).isSome

/-- Whether `part` occurs somewhere in the text. -/
def hasPart (part : List Char) : List Char → Bool
  | [] => part.isEmpty
  | c :: r => beginsWith part (c :: r) || hasPart part r

def joinWith (sep : List Char) (parts : List (List Char)) : List Char :=
  (parts.intersperse sep).flatten

end QueryGate.Text
