import QueryGate.Json.Print
import QueryGate.Log.Filter
import QueryGate.Log.Line
import QueryGate.Settings.Server
/-!
# The journal

Which events of a session are written, and how.
-/

namespace QueryGate.Server

inductive JournalStyle where
  | plain
  | coloured
  | json
  deriving Repr, DecidableEq

structure Journal where
  filter : Log.Filter
  style : JournalStyle
  deriving Repr

namespace Journal

/-- The variable that sets the filter before any setting does. -/
def filterVariable : String := "RUST_LOG"

/-- The variable that, if it says anything, turns colours off. -/
def plainVariable : String := "NO_COLOR"

def ofSettings (env : List (String × String)) (s : Settings) : Journal :=
  { filter := Log.Filter.read ((env.lookup filterVariable).elim s.logLevel String.toList)
    style :=
      if s.jsonLogs then .json
      else if (env.lookup plainVariable).all String.isEmpty then .coloured
      else .plain }

def select (j : Journal) (events : List Log.Event) : List Log.Event := events.filter j.filter.passes

def line (j : Journal) (time : String) (e : Log.Event) : String :=
  match j.style with
  | .plain => e.line time
  | .coloured => e.colouredLine time
  | .json => (e.toJson (some time)).compact

/-- The text of the events that are written, a line for each. -/
def text (j : Journal) (time : String) (events : List Log.Event) : String :=
  String.join ((j.select events).map fun e => j.line time e ++ "\n")

end Journal

end QueryGate.Server
