import QueryGate.Error
/-!
# Identifiers

Which names may stand in a statement, and how they are quoted there. Quoting is
the only way a caller's name gets into SQL text.
-/

namespace QueryGate.Sql.Identifier

def maxLength : Nat := 64

/-- Characters no name may have, with their names in messages. -/
def forbidden : List (Char × String) :=
  [(' ', "space"), ('\t', "tab"), ('\n', "line feed"), ('\r', "carriage return"),
   (';', "semicolon"), ('\x60', "backtick"), ('\\', "backslash")]

/-- Why a name is refused, if it is. -/
def fault? (name : List Char) : Option String :=
  if name.isEmpty then some "identifier cannot be empty"
  else if maxLength < name.length then
    some ("identifier exceeds maximum length of " ++ toString maxLength ++ " characters (got " ++
      toString name.length ++ ")")
  else
    (forbidden.find? fun (c, _) => name.contains c).map fun (_, label) =>
      "identifier contains a forbidden character (" ++ label ++ ")"

def check (name : List Char) : Except Error Unit :=
  match fault? name with
  | some reason => .error (.invalidIdentifier (.ofList name) reason)
  | none => .ok ()

/-- The name between backticks. -/
def quote (name : List Char) : Except Error (List Char) := do
  check name
  return '\x60' :: name ++ ['\x60']

/-- Writes `database.table`, each side quoted on its own. -/
def quoteQualified (database table : List Char) : Except Error (List Char) := do
  return (← quote database) ++ '.' :: (← quote table)

end QueryGate.Sql.Identifier
