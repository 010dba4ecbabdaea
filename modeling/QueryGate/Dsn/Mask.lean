import QueryGate.Text.Cut
/-!
# Masked connection texts

A connection text holds a password. What is shown of it has the password, and
all that may belong to it, replaced.
-/

namespace QueryGate.Dsn

def maskText : List Char := ['*', '*', '*']

/-- Replaces what stands between the first colon and the last at sign. A text
without the two in that order is left as it is. -/
def mask (dsn : List Char) : List Char :=
  match Text.cutFirst ':' dsn with
  | some (user, rest) =>
    match Text.cutLast '@' rest with
    | some (_, address) => user ++ ':' :: maskText ++ '@' :: address
    | none => dsn
  | none => dsn

end QueryGate.Dsn
