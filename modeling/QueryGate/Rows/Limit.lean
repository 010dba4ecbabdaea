/-!
# Row limits

How many rows a query may return.
-/

namespace QueryGate.RowLimit

def default : Nat := 1000

def greatest : Nat := 10000

/-- The limit asked for, or else the configured one, or else the default, within
`1` and `greatest`. -/
def effective (requested : Option Nat) (configured : Nat) : Nat :=
  let fallback := if configured = 0 then default else configured
  max 1 (min greatest (requested.getD fallback))

/-- What a caller is told who asks for more rows than there can be. -/
def warning? (requested : Option Nat) : Option String :=
  (requested.filter (greatest < ·)).map fun r =>
    "Requested max_rows " ++ toString r ++ " exceeds maximum allowed (" ++ toString greatest ++
      "). Results capped to " ++ toString greatest ++ " rows."

end QueryGate.RowLimit
