import QueryGate.Log.Event
import QueryGate.Query.Stream
import QueryGate.Registry.State
/-!
# Programs

What the server does with its registry and its pools, one step after the
other. A step is done at once; between two steps of a program other programs
may do theirs. What a step comes to is not part of the program: it goes on with
whatever answer it gets.
-/

namespace QueryGate

/-- Stands for a connection taken from a pool. -/
abbrev LeaseId := Nat

inductive Step where
  | log (e : Log.Event)
  /-- Whether a name is registered. -/
  | isTaken (name : List Char)
  | insert (entry : Entry)
  | active
  | summaries
  /-- Changes the active connection, and tells the one before. -/
  | setActive (name : List Char)
  /-- Closes the registry, and takes its entries out of it. -/
  | close
  /-- Makes a pool. It opens no connection yet. -/
  | openPool (options : Dsn.Options) (limits : PoolOptions)
  | ping (pool : PoolId)
  | closePool (pool : PoolId)
  /-- Takes a connection out of a pool. -/
  | lease (pool : PoolId)
  /-- Sees to it that the connection does not go back. -/
  | retire (lease : LeaseId)
  | execute (lease : LeaseId) (sql : List Char)
  | fetch (lease : LeaseId) (sql : List Char)
  /-- Gives the connection back. -/
  | release (lease : LeaseId)
  deriving Repr

/-- What a step comes to. -/
@[reducible]
def Step.Result : Step → Type
  | log _ => Unit
  | isTaken _ => Bool
  | insert _ => Except Error Unit
  | active => Except Error Entry
  | summaries => List ConnectionSummary
  | setActive _ => Except Error (Option (List Char))
  | close => Option (List Entry)
  | openPool .. => PoolId
  | ping _ => Answer Unit
  | closePool _ => Unit
  | lease _ => Answer LeaseId
  | retire _ => Unit
  | execute .. => Answer Unit
  | fetch .. => Answer Stream
  | release _ => Unit

inductive Program (α : Type) where
  | done (a : α)
  | step (s : Step) (next : s.Result → Program α)

namespace Program

variable {α β : Type}

/-- Goes on with another program. -/
def bind (p : Program α) (f : α → Program β) : Program β :=
  match p with
  | done a => f a
  | step s next => step s fun r => (next r).bind f

instance : Monad Program where
  pure := done
  bind := bind

/-- One step. -/
def perform (s : Step) : Program s.Result := step s done

/-- Stops at an error. -/
def andThen (p : Program (Except Error α)) (f : α → Program (Except Error β)) :
    Program (Except Error β) :=
  p.bind fun r =>
    match r with
    | .ok a => f a
    | .error e => done (.error e)

def log (level : Log.Level) (area : Log.Area) (fields : List (String × Log.Value))
    (message : String) : Program Unit :=
  perform (.log ⟨level, area, message, fields⟩)

/-- Does something for each of a list, in order. -/
def each (f : α → Program Unit) : List α → Program Unit
  | [] => done ()
  | a :: as => (f a).bind fun _ => each f as

/-- Runs a program where every step is answered from a state. -/
def run {σ : Type} (answer : (s : Step) → σ → s.Result × σ) : Program α → σ → α × σ
  | done a, state => (a, state)
  | step s next, state =>
    let (r, state) := answer s state
    run answer (next r) state

end Program

/-- A text as a log value. -/
def shown (s : List Char) : Log.Value := .text (.ofList s)

end QueryGate
