import QueryGate.Gate.Lexical
import QueryGate.Gate.Verdict
import QueryGate.Sql.Read.Statement
/-!
# The gate

A text passes if the grammar reads it as one statement whose tree may run, and
the lexical layer has nothing against it.
-/

namespace QueryGate.Gate

open QueryGate.Sql

/-- How many statements with anything in them the units make up. `filled` says
whether the one under way has any. -/
def countStatements (filled : Bool) : List Token → Nat
  | [] => filled.toNat
  | t :: ts =>
    if t = .symbol ";" then filled.toNat + countStatements false ts
    else if t = .blank ∨ t = .comment then countStatements filled ts
    else countStatements true ts

/-- The one statement of a text. Statements are counted before any is read. -/
def readStatement (text : List Char) : Except Error Statement :=
  let sql := Text.trim text
  if sql.isEmpty then .error .emptyInput
  else
    match lexemes sql with
    | .error f => .error (.unparsable f.message)
    | .ok ls =>
      match countStatements false (ls.map Lexeme.token) with
      | 0 => .error .emptyInput
      | 1 =>
        match Statement.ofTokens (tokens ls) with
        | .error f => .error (.unparsable f.message)
        | .ok [] => .error .emptyInput
        | .ok [s] => .ok s
        | .ok _ => .error .multipleStatements
      | _ => .error .multipleStatements

/-- The verdict of the grammar alone. -/
def checkParsed (text : List Char) : Except Error Kind := do checkStatement (← readStatement text)

/-- The verdict of both layers. Where the grammar cannot read the text, a
lexical reason comes first, since it names what is wrong. -/
def check (text : List Char) : Except Error Kind :=
  match checkParsed text with
  | .ok kind => do
    Lexical.check text
    return kind
  | .error (.unparsable detail) => do
    Lexical.check text
    .error (.unparsable detail)
  | .error e => .error e

end QueryGate.Gate
