import QueryGate.Scripted.World
import QueryGate.Server.Ending
import QueryGate.Server.Journal
/-!
# The command line

Reads the settings, opens the connections and says how that went. A process has
no servers of its own to connect to, so a connection is refused here; what a
session does with servers is run in a world that has them.
-/

namespace QueryGate.CommandLine

def UsageError.text : UsageError → String
  | unknownArgument => "unexpected argument"
  | invalidValue => "a value is missing or not one of the values allowed"
  | badNumber => "a value is not a number in range"
  | givenTwice => "an option is given twice"
  | flagWithValue => "a flag takes no value"
  | help => "Usage: mysql-mcp-server [OPTIONS]"
  | version => Server.name ++ " " ++ Server.version

/-- Whether the process was asked for no more than the text. -/
def UsageError.isAnswer : UsageError → Bool
  | help | version => true
  | _ => false

end QueryGate.CommandLine

open QueryGate

/-- The variables that matter, as far as they are set. -/
def readEnvironment : IO (List (String × String)) := do
  let names := Settings.options.map (·.envName) ++
    [Server.Journal.filterVariable, Server.Journal.plainVariable]
  let found ← names.mapM fun name => do return (name, ← IO.getEnv name)
  return found.filterMap fun (name, v) => v.map (name, ·)

def serveProcess (env : List (String × String)) (s : Settings) : IO UInt32 := do
  let (ending, w) := (Scripted.World.start [] []).run (Server.session s ⟨none, none, none⟩)
  let time := toString (← IO.monoMsNow)
  IO.eprint ((Server.Journal.ofSettings env s).text time w.log)
  IO.eprint ending.exit.stderr
  return ending.exit.code.toUInt32

def main (args : List String) : IO UInt32 := do
  let env ← readEnvironment
  match Settings.read env (args.map String.toList) with
  | .ok s => serveProcess env s
  | .error e =>
    if e.isAnswer then
      IO.println e.text
      return 0
    else
      IO.eprintln ("error: " ++ e.text)
      return 2
