import QueryGate.Scripted.World
/-!
# Traces

A run of a program as the steps it did and what each came to. `Runs` says which
runs there are when any step may come to anything, so what holds of all of them
holds whatever the servers answer and whatever other programs do in between.
`runs_run` says that an actual run is one of them. An `Environment` is what a
program runs in: a registry that answers the steps on it, and anything at all
for the rest.
-/

namespace QueryGate

/-- A step that was done, and what it came to. -/
structure Act where
  step : Step
  result : step.Result

/-- Whether a step leaves the registry as it is. -/
def Step.IsQuiet : Step → Prop
  | insert _ | setActive _ | close => False
  | _ => True

/-- What a step on the registry comes to, and the registry after it; none for
any other step. -/
def Registry.respond? (r : Registry) : (s : Step) → Option (s.Result × Registry)
  | .isTaken name => some (r.contains name, r)
  | .insert entry =>
    match r.insert entry with
    | .ok after => some (.ok (), after)
    | .error e => some (.error e, r)
  | .active => some (r.activeEntry, r)
  | .summaries => some (r.summaries, r)
  | .setActive name =>
    match r.setActive name with
    | .ok after => some (.ok r.active, after)
    | .error e => some (.error e, r)
  | .close =>
    match r.close with
    | some (entries, after) => some (some entries, after)
    | none => some (none, r)
  | _ => none

/-- What programs run in. Steps on the registry are answered from it, and no
other step changes it. -/
structure Environment where
  State : Type
  registry : State → Registry
  answer : (s : Step) → State → s.Result × State
  responds : ∀ s w out, (registry w).respond? s = some out →
    ((answer s w).1, registry (answer s w).2) = out
  elsewhere : ∀ s w, (registry w).respond? s = none → registry (answer s w).2 = registry w

namespace Program

variable {α β σ : Type}

/-- The runs of a program: what was done, in order, and the value in the end. -/
inductive Runs {α : Type} : Program α → List Act → α → Prop
  | done (a : α) : Runs (.done a) [] a
  | step (s : Step) {next : s.Result → Program α} (r : s.Result) {acts : List Act} {a : α} :
      Runs (next r) acts a → Runs (.step s next) (⟨s, r⟩ :: acts) a

/-- What a run against `answer` does. -/
def trace (answer : (s : Step) → σ → s.Result × σ) : Program α → σ → List Act
  | done _, _ => []
  | step s next, state =>
    let (r, state) := answer s state
    ⟨s, r⟩ :: trace answer (next r) state

theorem runs_run (answer : (s : Step) → σ → s.Result × σ) (p : Program α) (state : σ) :
    Runs p (p.trace answer state) (p.run answer state).1 := by
  induction p generalizing state with
  | done a => exact .done a
  | step s next ih => exact .step s _ (ih _ _)

/-! ## Programs made of programs -/

theorem bind_eq (p : Program α) (f : α → Program β) : (p >>= f) = p.bind f := rfl

theorem pure_eq (a : α) : (pure a : Program α) = .done a := rfl

@[simp] theorem bind_done (a : α) (f : α → Program β) : (done a).bind f = f a := rfl

@[simp] theorem bind_step (s : Step) (next : s.Result → Program α) (f : α → Program β) :
    (step s next).bind f = .step s fun r => (next r).bind f := rfl

theorem runs_done {a b : α} {acts : List Act} : Runs (.done a) acts b ↔ acts = [] ∧ b = a := by
  constructor
  · intro h; cases h; exact ⟨rfl, rfl⟩
  · rintro ⟨rfl, rfl⟩; exact .done _

theorem runs_step {s : Step} {next : s.Result → Program α} {acts : List Act} {a : α} :
    Runs (.step s next) acts a ↔ ∃ r rest, acts = ⟨s, r⟩ :: rest ∧ Runs (next r) rest a := by
  constructor
  · intro h; cases h with
    | step _ r h => exact ⟨r, _, rfl, h⟩
  · rintro ⟨r, rest, rfl, h⟩; exact .step s r h

theorem runs_bind {p : Program α} {f : α → Program β} {acts : List Act} {b : β} :
    Runs (p.bind f) acts b ↔
      ∃ first rest a, acts = first ++ rest ∧ Runs p first a ∧ Runs (f a) rest b := by
  induction p generalizing acts with
  | done a =>
    simp only [bind_done, runs_done]
    constructor
    · intro h; exact ⟨[], acts, a, rfl, ⟨rfl, rfl⟩, h⟩
    · rintro ⟨_, _, _, rfl, ⟨rfl, rfl⟩, h⟩; exact h
  | step s next ih =>
    simp only [bind_step, runs_step, ih]
    constructor
    · rintro ⟨r, _, rfl, first, rest, a, rfl, hp, hf⟩
      exact ⟨⟨s, r⟩ :: first, rest, a, rfl, ⟨r, first, rfl, hp⟩, hf⟩
    · rintro ⟨_, rest, a, rfl, ⟨r, first, rfl, hp⟩, hf⟩
      exact ⟨r, first ++ rest, rfl, first, rest, a, rfl, hp, hf⟩

theorem run_bind (answer : (s : Step) → σ → s.Result × σ) (p : Program α) (f : α → Program β)
    (state : σ) :
    (p.bind f).run answer state = (f (p.run answer state).1).run answer (p.run answer state).2 := by
  induction p generalizing state with
  | done a => rfl
  | step s next ih => exact ih _ _

theorem trace_bind (answer : (s : Step) → σ → s.Result × σ) (p : Program α) (f : α → Program β)
    (state : σ) :
    (p.bind f).trace answer state =
      p.trace answer state ++ (f (p.run answer state).1).trace answer (p.run answer state).2 := by
  induction p generalizing state with
  | done a => rfl
  | step s next ih => exact congrArg _ (ih _ _)

end Program

/-! ## The registry along a run -/

namespace Environment

variable (env : Environment) {α : Type}

theorem registry_quiet (s : Step) (w : env.State) (h : s.IsQuiet) :
    env.registry (env.answer s w).2 = env.registry w := by
  cases hr : (env.registry w).respond? s with
  | none => exact env.elsewhere s w hr
  | some out =>
    have after : out.2 = env.registry w := by
      cases s <;> simp_all [Registry.respond?, Step.IsQuiet] <;> rw [← hr]
    rw [← after, ← env.responds s w out hr]

theorem registry_run (p : Program α) (w : env.State)
    (h : ∀ a ∈ p.trace env.answer w, a.step.IsQuiet) :
    env.registry (p.run env.answer w).2 = env.registry w := by
  induction p generalizing w with
  | done a => rfl
  | step s next ih =>
    simp only [Program.trace, List.mem_cons, forall_eq_or_imp] at h
    simp only [Program.run]
    rw [ih _ _ h.2, env.registry_quiet s w h.1]

end Environment

namespace Scripted.World

theorem registry_connect (w : World) (id : PoolId) (p : Pool) :
    (w.connect id p).2.registry = w.registry := by
  unfold connect
  split
  · rfl
  · split <;> rfl

theorem registry_lease (w : World) (id : PoolId) : (w.lease id).2.registry = w.registry := by
  unfold lease
  split
  · rfl
  · split
    · rfl
    · split
      · exact w.registry_connect id _
      · rfl

theorem registry_release (w : World) (l : LeaseId) : (w.release l).registry = w.registry := by
  unfold release
  split
  · rfl
  · split <;> rfl

theorem registry_ping (w : World) (id : PoolId) : (w.ping id).2.registry = w.registry := by
  have h := w.registry_lease id
  unfold ping
  split <;> simp_all [registry_release]

theorem registry_send (w : World) (l : LeaseId) (sql : List Char) :
    (w.send l sql).2.registry = w.registry := by
  unfold send
  dsimp only
  split <;> rfl

/-- A world of scripted servers is an environment. -/
def environment : Environment where
  State := World
  registry := World.registry
  answer := answer
  responds s w out h := by
    cases s <;> simp only [Registry.respond?, reduceCtorEq, Option.some.injEq] at h
    case insert e => cases hi : w.registry.insert e <;> simp_all [answer]
    case setActive name => cases hs : w.registry.setActive name <;> simp_all [answer]
    case close => cases hc : w.registry.close <;> simp_all [answer]
    all_goals exact h
  elsewhere s w h := by
    cases s <;> simp only [Registry.respond?, reduceCtorEq] at h
    case ping pool => exact w.registry_ping pool
    case lease pool => exact w.registry_lease pool
    case execute l sql => exact w.registry_send l sql
    case fetch l sql => exact w.registry_send l sql
    case release l => exact w.registry_release l
    case insert e => cases hi : w.registry.insert e <;> simp [hi] at h
    case setActive name => cases hs : w.registry.setActive name <;> simp [hs] at h
    case close => cases hc : w.registry.close <;> simp [hc] at h
    all_goals rfl

end Scripted.World

end QueryGate
