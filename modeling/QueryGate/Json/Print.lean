import QueryGate.Json.Value
import QueryGate.Number.Text
/-!
# Writing JSON

Compact text: no blanks, the shortest digits of a number, and only what has to
be escaped is escaped.
-/

namespace QueryGate.Json

def hexDigit (n : Nat) : Char := Nat.digitChar (n % 16)

/-- One character of a quoted text. -/
def escapedChar (c : Char) : List Char :=
  if c = '"' then ['\\', '"']
  else if c = '\\' then ['\\', '\\']
  else if c = '\n' then ['\\', 'n']
  else if c = '\r' then ['\\', 'r']
  else if c = '\t' then ['\\', 't']
  else if c.toNat = 8 then ['\\', 'b']
  else if c.toNat = 12 then ['\\', 'f']
  else if c.toNat < 32 then ['\\', 'u', '0', '0', hexDigit (c.toNat / 16), hexDigit c.toNat]
  else [c]

def quoted (s : String) : List Char := '"' :: s.toList.flatMap escapedChar ++ ['"']

mutual

def print : Json → List Char
  | null => "null".toList
  | bool b => if b then "true".toList else "false".toList
  | int n => Number.intText n
  | real x => Number.doubleText x
  | text s => quoted s
  | list items => '[' :: printItems true items
  | object fields => '\x7b' :: printFields true fields

/-- The items of a list and its end; `first` says that none stands before. -/
def printItems (first : Bool) : List Json → List Char
  | [] => [']']
  | v :: r => (if first then [] else [',']) ++ print v ++ printItems false r

def printFields (first : Bool) : List (String × Json) → List Char
  | [] => ['\x7d']
  | (k, v) :: r =>
    (if first then [] else [',']) ++ quoted k ++ ':' :: print v ++ printFields false r

end

def compact (v : Json) : String := .ofList v.print

end QueryGate.Json
