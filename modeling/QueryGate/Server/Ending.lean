import QueryGate.Server.Session
import QueryGate.Text.Visible
/-!
# The end of the process

The exit code, and what is said on the way out.
-/

namespace QueryGate.Server

def usageText : String :=
  "Error: At least one MySQL connection must be configured.\n" ++
  "\n" ++
  "Usage: mysql-mcp-server --connection <dsn>\n" ++
  "       mysql-mcp-server --connection <name>=<dsn>\n" ++
  "\n" ++
  "DSN format: user:password@tcp(host:port)/database?param=value\n" ++
  "\n" ++
  "Examples:\n" ++
  "  mysql-mcp-server -c 'reader:secret@tcp(localhost:3306)/shop'\n" ++
  "  mysql-mcp-server -c 'main=reader:secret@tcp(db:3306)/shop' \\\n" ++
  "                   -c 'bi=reader:secret@tcp(replica:3306)/reports' --ssl true\n"

/-- An error with the names of its parts. -/
def record (name : String) (fields : List (String × String)) : String :=
  name ++ " \x7b " ++
    String.intercalate ", " (fields.map fun (k, v) => k ++ ": " ++ Text.visible v) ++ " \x7d"

/-- The errors a process can end with, part by part. -/
def detailed : Error → String
  | .connection message suggestion =>
    record "Connection" [("message", message), ("suggestion", suggestion)]
  | .internal message => record "Internal" [("message", message)]
  | e => Text.visible e.message

def errorLine (s : String) : String := "Error: " ++ s ++ "\n"

/-- What the process leaves behind. -/
structure Exit where
  code : UInt8
  stderr : String
  deriving Repr, DecidableEq

def Ending.exit : Ending → Exit
  | unconfigured => ⟨1, usageText⟩
  | misconfigured fault => ⟨1, errorLine (Text.visible fault.text)⟩
  | unopened e => ⟨1, errorLine (detailed e)⟩
  | served s =>
    match s.result with
    | .ok () => ⟨0, ""⟩
    | .error e => ⟨1, errorLine (detailed e)⟩

end QueryGate.Server
