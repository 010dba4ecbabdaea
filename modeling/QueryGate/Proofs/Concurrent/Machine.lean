import Mathlib.Data.List.Induction
import QueryGate.Proofs.Trace
import QueryGate.Tool.Run
/-!
# Calls side by side

Any number of calls on one registry, each of them a program. A schedule says
when a call comes in and which call goes on next, by one step at a time; so the
schedules are all the ways in which calls can get between the steps of each
other. What a step comes to is left to the environment.

`invariant` carries a fact along a schedule, `task_invariant` one about a call
and what it has done so far, and `registry_does` says all that a step can do to
the registry.
-/

namespace QueryGate

/-! ## The registry, step by step -/

/-- Whether a step is none on the registry. -/
def Step.IsElsewhere : Step → Prop
  | isTaken _ | insert _ | active | summaries | setActive _ | close => False
  | _ => True

/-- Everything a step can do to the registry, with what it comes to. -/
inductive Registry.Does (r : Registry) : Act → Registry → Prop where
  | inserts {e : Entry} : r.closed = false → r.contains e.config.name = false →
      Does r ⟨.insert e, .ok ()⟩
        { r with entries := r.entries ++ [e], active := some (r.active.getD e.config.name) }
  | refuses {e : Entry} {error : Error} : r.insert e = .error error →
      Does r ⟨.insert e, .error error⟩ r
  | switches {name : List Char} : r.contains name →
      Does r ⟨.setActive name, .ok r.active⟩ { r with active := some name }
  | stays {name : List Char} : r.contains name = false →
      Does r ⟨.setActive name, .error (.unknownConnection (.ofList name))⟩ r
  | closes : r.closed = false → Does r ⟨.close, some r.entries⟩ ⟨[], none, true⟩
  | isClosed : r.closed → Does r ⟨.close, none⟩ r
  | tells : Does r ⟨.active, r.activeEntry⟩ r
  | lists : Does r ⟨.summaries, r.summaries⟩ r
  | checks {name : List Char} : Does r ⟨.isTaken name, r.contains name⟩ r
  | elsewhere {a : Act} : a.step.IsElsewhere → Does r a r

theorem Registry.does_insert (r : Registry) (e : Entry) :
    (∃ after, r.insert e = .ok after ∧ r.Does ⟨.insert e, .ok ()⟩ after) ∨
      ∃ error, r.insert e = .error error := by
  unfold insert
  split
  · exact .inr ⟨_, rfl⟩
  split
  · exact .inr ⟨_, rfl⟩
  · next isOpen isNew => exact .inl ⟨_, rfl, .inserts (by simpa using isOpen) (by simpa using isNew)⟩

theorem Registry.isElsewhere_of_respond? {r : Registry} {s : Step} (h : r.respond? s = none) :
    s.IsElsewhere := by
  cases s <;> simp only [respond?, reduceCtorEq] at h <;> first | trivial | split at h <;> cases h

namespace Environment

variable (env : Environment)

theorem registry_does (s : Step) (w : env.State) :
    (env.registry w).Does ⟨s, (env.answer s w).1⟩ (env.registry (env.answer s w).2) := by
  generalize hr : env.registry w = r
  cases hs : r.respond? s with
  | none =>
    rw [env.elsewhere s w (hr ▸ hs), hr]
    exact .elsewhere (Registry.isElsewhere_of_respond? hs)
  | some out =>
    obtain ⟨result, after⟩ := out
    obtain ⟨hresult, hafter⟩ := Prod.mk.inj (env.responds s w (result, after) (hr ▸ hs))
    rw [hresult, hafter]
    cases s <;> simp only [Registry.respond?, reduceCtorEq] at hs
    case insert e =>
      obtain ⟨added, ho, does⟩ | ⟨error, ho⟩ := r.does_insert e
      · rw [ho] at hs
        cases hs
        exact does
      · rw [ho] at hs
        cases hs
        exact .refuses ho
    case setActive name =>
      unfold Registry.setActive at hs
      split at hs
      · next new known =>
        split at known
        · next isKnown =>
          cases known
          cases hs
          exact .switches isKnown
        · cases known
      · next error unknown =>
        split at unknown
        · cases unknown
        · next isUnknown =>
          cases unknown
          cases hs
          exact .stays (by simpa using isUnknown)
    case close =>
      unfold Registry.close at hs
      split at hs
      · next entries new opened =>
        split at opened
        · cases opened
        · next isOpen =>
          cases opened
          cases hs
          exact .closes (by simpa using isOpen)
      · next shut =>
        split at shut
        · next isShut =>
          cases hs
          exact .isClosed isShut
        · cases shut
    all_goals
      cases hs
      constructor

end Environment

/-! ## Calls -/

namespace Concurrent

/-- What can be asked of a registry: its own operations, and the tools that go
through it. -/
inductive Call where
  | add (config : ConnectionConfig)
  /-- Hands over a pool that was made before. -/
  | addPool (config : ConnectionConfig) (pool : PoolId)
  | setActive (name : List Char)
  | active
  | list
  | close
  | tool (call : Tool.Call)

@[reducible]
def Call.Result : Call → Type
  | add _ | addPool .. | setActive _ => Except Error Unit
  | active => Except Error Entry
  | list => List ConnectionSummary
  | close => Unit
  | tool _ => Except Error Tool.Output

def Call.program (x : Executor) : (c : Call) → Program c.Result
  | add config => Registry.add config
  | addPool config pool => Registry.addPool config pool
  | setActive name => Registry.switch name
  | active => .perform .active
  | list => .perform .summaries
  | close => Registry.closeAll
  | tool call => call.run x

/-- A call that came in, and what is left of it. -/
structure Task where
  call : Call
  left : Program call.Result

/-- A step that was done, by which task, and the state before and after. -/
structure Moment (σ : Type) where
  task : Nat
  act : Act
  before : σ
  after : σ

structure Machine (env : Environment) where
  state : env.State
  /-- In the order in which they came in. -/
  tasks : List Task
  /-- All that was done, oldest first. -/
  history : List (Moment env.State)

/-- What happens next. -/
inductive Move where
  | start (call : Call)
  /-- A task does its next step, if it has one. -/
  | advance (task : Nat)

namespace Machine

variable {env : Environment}

def start (m : Machine env) (x : Executor) (call : Call) : Machine env :=
  { m with tasks := m.tasks ++ [⟨call, call.program x⟩] }

/-- The machine after a step of the task at `i`. -/
def perform (m : Machine env) (i : Nat) (call : Call) (s : Step)
    (next : s.Result → Program call.Result) : Machine env :=
  let r := (env.answer s m.state).1
  let after := (env.answer s m.state).2
  { state := after
    tasks := m.tasks.set i ⟨call, next r⟩
    history := m.history ++ [⟨i, ⟨s, r⟩, m.state, after⟩] }

def go (x : Executor) (m : Machine env) : Move → Machine env
  | .start call => m.start x call
  | .advance i =>
    match m.tasks[i]? with
    | some ⟨call, .step s next⟩ => m.perform i call s next
    | _ => m

def registry (m : Machine env) : Registry := env.registry m.state

def acts (m : Machine env) : List Act := m.history.map Moment.act

/-- What one task has done so far. -/
def actsOf (m : Machine env) (i : Nat) : List Act :=
  (m.history.filter (·.task = i)).map Moment.act

end Machine

end Concurrent

namespace Environment

open Concurrent

variable (env : Environment) (x : Executor) (w : env.State)

/-- What a schedule comes to. -/
def interleave (moves : List Move) : Machine env := moves.foldl (Machine.go x) ⟨w, [], []⟩

variable {x w}

theorem interleave_concat (moves : List Move) (move : Move) :
    env.interleave x w (moves ++ [move]) = (env.interleave x w moves).go x move := by
  simp [interleave]

/-- What holds in the beginning, and is kept when a call comes in and by every
step after a schedule, holds after every schedule. -/
theorem reached_invariant {P : Machine env → Prop} (fresh : P ⟨w, [], []⟩)
    (start : ∀ moves call, P (env.interleave x w moves) →
      P ((env.interleave x w moves).start x call))
    (perform : ∀ moves i call s next,
      (env.interleave x w moves).tasks[i]? = some ⟨call, .step s next⟩ →
      P (env.interleave x w moves) → P ((env.interleave x w moves).perform i call s next))
    (moves : List Move) : P (env.interleave x w moves) := by
  induction moves using List.reverseRecOn with
  | nil => exact fresh
  | append_singleton moves move ih =>
    rw [interleave_concat]
    cases move with
    | start call => exact start moves call ih
    | advance i =>
      unfold Machine.go
      dsimp only
      split
      · next call s next found => exact perform moves i call s next found ih
      · exact ih

/-- The same for what each step keeps, after a schedule or not. -/
theorem invariant {P : Machine env → Prop} (fresh : P ⟨w, [], []⟩)
    (start : ∀ m call, P m → P (m.start x call))
    (perform : ∀ m i call s next, m.tasks[i]? = some ⟨call, .step s next⟩ → P m →
      P (m.perform i call s next))
    (moves : List Move) : P (env.interleave x w moves) :=
  env.reached_invariant fresh (fun _ => start _) (fun _ => perform _) moves

end Environment

namespace Concurrent.Machine

variable {env : Environment} {m : Machine env} {x : Executor}

/-! ## One move -/

@[simp] theorem actsOf_start (call : Call) (i : Nat) : (m.start x call).actsOf i = m.actsOf i := rfl

variable {i : Nat} {call : Call} {s : Step} {next : s.Result → Program call.Result}

@[simp] theorem acts_perform :
    (m.perform i call s next).acts = m.acts ++ [⟨s, (env.answer s m.state).1⟩] := by
  simp [acts, perform]

@[simp] theorem actsOf_perform :
    (m.perform i call s next).actsOf i = m.actsOf i ++ [⟨s, (env.answer s m.state).1⟩] := by
  simp [actsOf, perform]

theorem actsOf_perform_ne {j : Nat} (h : i ≠ j) :
    (m.perform i call s next).actsOf j = m.actsOf j := by
  simp [actsOf, perform, h]

theorem registry_perform :
    m.registry.Does ⟨s, (env.answer s m.state).1⟩ (m.perform i call s next).registry :=
  env.registry_does s m.state

/-- A task is one that was there before, or the one that came in. -/
theorem task_of_start {j : Nat} {t : Task} (h : (m.start x call).tasks[j]? = some t) :
    m.tasks[j]? = some t ∨ j = m.tasks.length ∧ t = ⟨call, call.program x⟩ := by
  rw [start, List.getElem?_append] at h
  split at h
  · exact .inl h
  · next old =>
    obtain ⟨first, rfl⟩ := List.getElem?_eq_some_iff.1 h
    simp only [List.length_singleton] at first
    exact .inr ⟨by omega, by simp⟩

/-- A task is one that did nothing now, or the one whose step was done. -/
theorem task_of_perform {j : Nat} {t : Task} (h : (m.perform i call s next).tasks[j]? = some t) :
    (i ≠ j ∧ m.tasks[j]? = some t) ∨ (i = j ∧ t = ⟨call, next (env.answer s m.state).1⟩) := by
  rw [perform, List.getElem?_set] at h
  split at h
  · next same =>
    split at h
    · exact .inr ⟨same, (Option.some.inj h).symm⟩
    · cases h
  · next other => exact .inl ⟨other, h⟩

/-- A task goes on with the call it came in with. -/
theorem call_of_perform (found : m.tasks[i]? = some ⟨call, .step s next⟩) {j : Nat} {c : Call}
    {left : Program c.Result} (h : m.tasks[j]? = some ⟨c, left⟩) :
    ∃ left', (m.perform i call s next).tasks[j]? = some ⟨c, left'⟩ := by
  by_cases same : i = j
  · subst same
    rw [found] at h
    cases h
    exact ⟨_, List.getElem?_set_self (List.getElem?_eq_some_iff.1 found).1⟩
  · exact ⟨left, (List.getElem?_set_ne same).trans h⟩

theorem mem_acts {a : Act} : a ∈ m.acts ↔ ∃ h ∈ m.history, h.act = a := by simp [acts]

theorem mem_actsOf {a : Act} : a ∈ m.actsOf i ↔ ∃ h ∈ m.history, h.task = i ∧ h.act = a := by
  simp [actsOf, and_assoc]

theorem mem_acts_of_mem_actsOf {a : Act} (h : a ∈ m.actsOf i) : a ∈ m.acts := by
  obtain ⟨moment, hm, -, rfl⟩ := mem_actsOf.1 h
  exact mem_acts.2 ⟨moment, hm, rfl⟩

end Concurrent.Machine

namespace Environment

open Concurrent

variable (env : Environment) {x : Executor} {w : env.State}

/-! ## What was done -/

/-- Only tasks that came in have done anything. -/
theorem task_lt (moves : List Move) :
    ∀ h ∈ (env.interleave x w moves).history, h.task < (env.interleave x w moves).tasks.length := by
  refine env.invariant (P := fun m => ∀ h ∈ m.history, h.task < m.tasks.length) (by simp)
    (fun m call old h hm => ?_) (fun m i call s next found old h hm => ?_) moves
  · have := old h hm
    simp only [Machine.start, List.length_append, List.length_singleton]
    omega
  · simp only [Machine.perform, List.length_set]
    obtain before | now := List.mem_append.1 hm
    · exact old h before
    · rw [List.mem_singleton.1 now]
      exact (List.getElem?_eq_some_iff.1 found).1

/-- Every moment shows a step and what it came to. -/
theorem does_moment (moves : List Move) :
    ∀ h ∈ (env.interleave x w moves).history,
      (env.registry h.before).Does h.act (env.registry h.after) := by
  refine env.invariant (P := fun m => ∀ h ∈ m.history,
      (env.registry h.before).Does h.act (env.registry h.after)) (by simp)
    (fun m call old => old) (fun m i call s next _ old h hm => ?_) moves
  obtain before | now := List.mem_append.1 hm
  · exact old h before
  · rw [List.mem_singleton.1 now]
    exact env.registry_does s m.state

/-- Every moment is a step of a task, as the machine was after part of the
schedule. -/
theorem moment_reached (moves : List Move) :
    ∀ h ∈ (env.interleave x w moves).history, ∃ past call s next left,
      (env.interleave x w past).tasks[h.task]? = some ⟨call, .step s next⟩ ∧
      h.act = ⟨s, (env.answer s (env.interleave x w past).state).1⟩ ∧
      h.before = (env.interleave x w past).state ∧
      (env.interleave x w past).history ⊆ (env.interleave x w moves).history ∧
      (env.interleave x w moves).tasks[h.task]? = some ⟨call, left⟩ := by
  refine env.reached_invariant (P := fun m => ∀ h ∈ m.history, ∃ past call s next left,
      (env.interleave x w past).tasks[h.task]? = some ⟨call, .step s next⟩ ∧
      h.act = ⟨s, (env.answer s (env.interleave x w past).state).1⟩ ∧
      h.before = (env.interleave x w past).state ∧
      (env.interleave x w past).history ⊆ m.history ∧ m.tasks[h.task]? = some ⟨call, left⟩)
    (by simp) (fun moves call old h hm => ?_) (fun moves i call s next found old h hm => ?_) moves
  · obtain ⟨past, c, s, next, left, was, act, before, earlier, now⟩ := old h hm
    refine ⟨past, c, s, next, left, was, act, before, earlier, ?_⟩
    exact (List.getElem?_append_left (List.getElem?_eq_some_iff.1 now).1).trans now
  · have later : (env.interleave x w moves).history ⊆
        ((env.interleave x w moves).perform i call s next).history := List.subset_append_left _ _
    obtain known | new := List.mem_append.1 hm
    · obtain ⟨past, c, s', next', left, was, act, before, earlier, now⟩ := old h known
      obtain ⟨left', goesOn⟩ := Machine.call_of_perform found now
      exact ⟨past, c, s', next', left', was, act, before, List.Subset.trans earlier later, goesOn⟩
    · obtain rfl := List.mem_singleton.1 new
      obtain ⟨left', goesOn⟩ := Machine.call_of_perform found found
      exact ⟨moves, call, s, next, left', found, rfl, rfl, later, goesOn⟩

/-! ## Each task by itself -/

/-- What holds of a call that has done nothing, and is kept by each of its
steps whatever that comes to, holds of every task. -/
theorem task_invariant {P : (call : Call) → List Act → Program call.Result → Prop}
    (fresh : ∀ call, P call [] (call.program x))
    (step : ∀ call acts s next, P call acts (.step s next) → ∀ r, P call (acts ++ [⟨s, r⟩]) (next r))
    (moves : List Move) :
    ∀ i (t : Task), (env.interleave x w moves).tasks[i]? = some t →
      P t.call ((env.interleave x w moves).actsOf i) t.left := by
  -- A task that comes in has done nothing, since only tasks have done anything.
  refine (env.invariant (P := fun m =>
    (∀ i (t : Task), m.tasks[i]? = some t → P t.call (m.actsOf i) t.left) ∧
      ∀ i, m.tasks.length ≤ i → m.actsOf i = []) (by simp [Machine.actsOf])
    (fun m call ⟨each, idle⟩ => ?_) (fun m i call s next found ⟨each, idle⟩ => ?_) moves).1
  · refine ⟨fun j t ht => ?_, fun j hj => ?_⟩
    · obtain old | ⟨rfl, rfl⟩ := Machine.task_of_start ht
      · exact each j t old
      · rw [Machine.actsOf_start, idle _ (Nat.le_refl _)]
        exact fresh call
    · refine idle j ?_
      simp only [Machine.start, List.length_append, List.length_singleton] at hj
      omega
  · refine ⟨fun j t ht => ?_, fun j hj => ?_⟩
    · obtain ⟨other, old⟩ | ⟨rfl, rfl⟩ := Machine.task_of_perform ht
      · rw [Machine.actsOf_perform_ne other]
        exact each j t old
      · rw [Machine.actsOf_perform]
        exact step call _ s next (each i _ found) _
    · have far : m.tasks.length ≤ j := by simpa [Machine.perform] using hj
      have other : i ≠ j := by
        have := (List.getElem?_eq_some_iff.1 found).1
        omega
      rw [Machine.actsOf_perform_ne other, idle j far]

/-- What a task that has come to its end did is a run of its call. -/
theorem runs_of_over (moves : List Move) {i : Nat} {call : Call} {a : call.Result}
    (h : (env.interleave x w moves).tasks[i]? = some ⟨call, .done a⟩) :
    Program.Runs (call.program x) ((env.interleave x w moves).actsOf i) a := by
  have goesOn := env.task_invariant (x := x) (w := w)
    (P := fun call acts left => ∀ rest a,
      Program.Runs left rest a → Program.Runs (call.program x) (acts ++ rest) a)
    (fun call rest a h => h)
    (fun call acts s next h r rest a runs => by
      rw [List.append_assoc]
      exact h _ a (.step s r runs))
    moves i ⟨call, .done a⟩ h [] a (.done a)
  simpa using goesOn

end Environment

/-! ## A small world -/

namespace Concurrent

/-- A server that knows one statement. -/
def shop : Scripted.World :=
  .start [⟨"shop", ⟨[("SELECT 1".toList, .rows [] [])], none⟩, []⟩] [("localhost".toList, "shop")]

/-- A connection to it, with a default schema. -/
def shopConfig (name : String) : ConnectionConfig :=
  ⟨name.toList, "root@tcp(localhost)/home".toList, [], true, ⟨0, 0, 0, 0, 0⟩⟩

end Concurrent

end QueryGate
