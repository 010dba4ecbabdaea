import QueryGate.Number.Read
import QueryGate.Text.Cut
/-!
# Command lines

Options with values, and flags, from the words of a command line and from the
environment. A word that begins with a hyphen is never the value of the option
before it; the value of an option counts once the next option or the end of the
line is reached.
-/

namespace QueryGate.CommandLine

/-- What an option takes. -/
inductive Domain where
  | flag
  | text
  /-- A number up to a limit. Numbers of less than 64 bits may be a negated
  zero. -/
  | number (limit : Nat)
  | choice (words : List String)
  deriving Repr, DecidableEq

structure Opt where
  long : String
  short : Option Char
  /-- The environment variable that gives the value if the command line does
  not. -/
  envName : String
  domain : Domain
  repeats : Bool
  deriving Repr, DecidableEq

inductive Value where
  | flag (on : Bool)
  | text (s : List Char)
  | number (n : Nat)
  deriving Repr, DecidableEq

inductive UsageError where
  | unknownArgument
  /-- No value, or one that is none of the words. -/
  | invalidValue
  | badNumber
  | givenTwice
  | flagWithValue
  | help
  | version
  deriving Repr, DecidableEq

/-! ## Values -/

def readNumber (limit : Nat) (s : List Char) : Option Nat :=
  match s with
  | '-' :: r => if limit < Number.word64 then (Number.readDigits r).filter (· = 0) else none
  | _ => Number.readNat limit s

def Domain.read (d : Domain) (s : List Char) : Except UsageError Value :=
  match d with
  | flag =>
    if s = "true".toList then .ok (.flag true)
    else if s = "false".toList then .ok (.flag false)
    else .error .invalidValue
  | text => .ok (.text s)
  | number limit =>
    match readNumber limit s with
    | some n => .ok (.number n)
    | none => .error .badNumber
  | choice words => if words.contains (.ofList s) then .ok (.text s) else .error .invalidValue

/-- Options by their long names, with their values, in the order given. -/
abbrev Given := List (String × Value)

def Given.has (g : Given) (o : Opt) : Bool := g.any fun (k, _) => k == o.long

def Given.put (g : Given) (o : Opt) (s : List Char) : Except UsageError Given := do
  return g ++ [(o.long, ← o.domain.read s)]

/-- Gives an option a value that the command line has for it. -/
def Given.add (g : Given) (o : Opt) (s : List Char) : Except UsageError Given :=
  if g.has o ∧ !o.repeats then .error .givenTwice else g.put o s

/-! ## The command line -/

/-- What is known in the middle of a command line. -/
structure State where
  given : Given
  /-- An option that has to get its value, or has it but was not looked at yet. -/
  pending : Option (Opt × Option (List Char))
  deriving Repr

/-- Closes the option under way. -/
def State.settle (s : State) : Except UsageError Given :=
  match s.pending with
  | none => .ok s.given
  | some (_, none) => .error .invalidValue
  | some (o, some v) => s.given.add o v

/-- An option with the value attached to it, or none. -/
def State.option (s : State) (o : Opt) (attached : Option (List Char)) :
    Except UsageError State := do
  let given ← s.settle
  match attached with
  | some v => return ⟨← given.add o v, none⟩
  | none => return ⟨given, some (o, none)⟩

def State.flag (s : State) (o : Opt) : Except UsageError State := do
  return ⟨← (← s.settle).add o "true".toList, none⟩

def State.stop (s : State) (e : UsageError) : Except UsageError State := do
  let _ ← s.settle
  .error e

variable (options : List Opt)

/-- A word with two hyphens, without them. -/
def State.longWord (s : State) (word : List Char) : Except UsageError State :=
  let (name, attached) :=
    match Text.cutFirst '=' word with
    | some (name, v) => (String.ofList name, some v)
    | none => (.ofList word, none)
  if name = "help" ∨ name = "version" then
    if attached.isSome then .error .flagWithValue
    else s.stop (if name = "help" then .help else .version)
  else
    match options.find? (·.long == name) with
    | none => .error .unknownArgument
    | some o =>
      if o.domain = .flag then if attached.isSome then .error .flagWithValue else s.flag o
      else s.option o attached

/-- A word with one hyphen, without it: letters, the last of which may have a
value behind it. -/
def State.shortWord (s : State) : List Char → Except UsageError State
  | [] => .ok s
  | c :: r =>
    if c = 'h' then s.stop .help
    else if c = 'V' then s.stop .version
    else
      match options.find? (·.short == some c) with
      | none => .error .unknownArgument
      | some o =>
        if o.domain = .flag then do (← s.flag o).shortWord r
        else
          s.option o
            (match r with
            | [] => none
            | '=' :: v => some v
            | _ => some r)

/-- A word that is no option: the value of the option under way. -/
def State.plainWord (s : State) (word : List Char) : Except UsageError State :=
  match s.pending with
  | some (o, none) => .ok { s with pending := some (o, some word) }
  | _ => .error .unknownArgument

def State.words (s : State) : List (List Char) → Except UsageError Given
  | [] => s.settle
  | w :: ws =>
    match w with
    | ['-', '-'] => if ws.isEmpty then s.settle else .error .unknownArgument
    | '-' :: '-' :: word => do (← s.longWord options word).words ws
    | ['-'] => do (← s.plainWord w).words ws
    | '-' :: word => do (← s.shortWord options word).words ws
    | _ => do (← s.plainWord w).words ws

/-! ## The environment -/

/-- Values for the options that are not given yet. -/
def addEnvironment (env : List (String × String)) :
    List Opt → Given → Except UsageError Given
  | [], g => .ok g
  | o :: os, g =>
    if g.has o then addEnvironment env os g
    else
      match env.lookup o.envName with
      | none => addEnvironment env os g
      | some v => do addEnvironment env os (← g.put o v.toList)

/-- The options of a command line; the environment fills in those it lacks. -/
def read (env : List (String × String)) (args : List (List Char)) : Except UsageError Given := do
  addEnvironment env options (← (⟨[], none⟩ : State).words options args)

end QueryGate.CommandLine
