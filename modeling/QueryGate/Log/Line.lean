import QueryGate.Log.Event
import QueryGate.Number.Text
import QueryGate.Text.Visible
/-!
# Log lines

An event as one line of text, plain or with the colours of a terminal.
-/

namespace QueryGate.Log

def Value.shown : Value → String
  | .text s => s
  | quoted s => Text.visible s
  | count n => toString n
  | flag b => toString b

/-- The level, as wide as the widest. -/
def Level.column (l : Level) : String := if l.text.length < 5 then " " ++ l.text else l.text

/-- Shows `target: message name=value …` after the time and the level. -/
def Event.line (time : String) (e : Event) : String :=
  time ++ " " ++ e.level.column ++ " " ++ e.area.target ++ ": " ++ e.message ++
    String.join (e.fields.map fun (k, v) => " " ++ k ++ "=" ++ v.shown)

/-! ## Colours -/

/-- A text in a style of the terminal. -/
def styled (style : String) (s : String) : String := "\x1b[" ++ style ++ "m" ++ s ++ "\x1b[0m"

def faint : String → String := styled "2"

def italic : String → String := styled "3"

def Level.colour : Level → String
  | error => "31"
  | warn => "33"
  | info => "32"
  | debug => "34"

def Event.colouredLine (time : String) (e : Event) : String :=
  faint time ++ " " ++ styled e.level.colour e.level.column ++ " " ++ faint e.area.target ++
    faint ":" ++ " " ++ e.message ++
    String.join (e.fields.map fun (k, v) => " " ++ italic k ++ faint "=" ++ v.shown)

/-- The event as an object; the time may be left out. -/
def Event.toJson (time : Option String) (e : Event) : Json :=
  .ofPresent [
    ("timestamp", time.map .text),
    ("level", some (.text e.level.text)),
    ("fields", some e.fieldsJson),
    ("target", some (.text e.area.target))]

end QueryGate.Log
