import QueryGate.Number.Text
/-!
# Sizes

A number of bytes in the greatest unit it fills.
-/

namespace QueryGate.Render

open QueryGate.Number

def sizeUnits : List String := ["B", "kB", "MB", "GB", "TB", "PB", "EB"]

/-- The value in the unit it comes to, at most the last one. -/
def inUnit (x : Binary) : List String → Binary × String
  | [] => (x, "")
  | [u] => (x, u)
  | u :: us =>
    if x.reaches 1024 then inUnit (x.div .double (Binary.ofInt .double 1024)) us else (x, u)

/-- Two places, or none for a whole number of units. -/
def size (bytes : Nat) : List Char :=
  let (x, u) := inUnit (Binary.ofInt .double bytes) sizeUnits
  (if x.isWhole then digitsOf (x.times 0) else hundredths x) ++ ' ' :: u.toList

end QueryGate.Render
