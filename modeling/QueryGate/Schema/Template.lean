import QueryGate.Sql.Identifier
/-!
# Introspection statements

Fixed statements that ask the server for its schema. Names are the only thing
that varies, and they are quoted.
-/

namespace QueryGate.Schema.Template

open QueryGate.Sql (Identifier.quote Identifier.quoteQualified)

def databases : List Char := "SHOW DATABASES".toList

def tableStatus (database : List Char) : Except Error (List Char) := do
  return "SHOW TABLE STATUS FROM ".toList ++ (← Identifier.quote database)

def fullColumns (database table : List Char) : Except Error (List Char) := do
  return "SHOW FULL COLUMNS FROM ".toList ++ (← Identifier.quoteQualified database table)

def indexes (database table : List Char) : Except Error (List Char) := do
  return "SHOW INDEX FROM ".toList ++ (← Identifier.quoteQualified database table)

def createTable (database table : List Char) : Except Error (List Char) := do
  return "SHOW CREATE TABLE ".toList ++ (← Identifier.quoteQualified database table)

end QueryGate.Schema.Template
