import QueryGate.Proofs.Concurrent.Machine
/-!
# What a program may do next

Some steps are right only after others: what is closed must be there, a
statement needs a connection. A `Discipline` says which, by a state that follows
what was done and what it came to. A program that `Keeps` to it does so whatever
its steps come to; so it does in every schedule (`keeps_task`).
-/

namespace QueryGate

structure Discipline (σ : Type) where
  allows : σ → Step → Prop
  next : σ → Act → σ
  /-- Something may be logged at any time. -/
  allows_log : ∀ h e, allows h (.log e)
  next_log : ∀ h e r, next h ⟨.log e, r⟩ = h

namespace Discipline

variable {σ : Type} (d : Discipline σ)

/-- The state after what was done. -/
def after (h : σ) (acts : List Act) : σ := acts.foldl d.next h

/-- Everything was allowed when it was done. -/
def Allowed : σ → List Act → Prop
  | _, [] => True
  | h, a :: acts => d.allows h a.step ∧ Allowed (d.next h a) acts

@[simp] theorem after_nil (h : σ) : d.after h [] = h := rfl

@[simp] theorem after_cons (h : σ) (a : Act) (acts : List Act) :
    d.after h (a :: acts) = d.after (d.next h a) acts := rfl

theorem after_append (h : σ) (acts more : List Act) :
    d.after h (acts ++ more) = d.after (d.after h acts) more :=
  List.foldl_append

theorem allowed_append {h : σ} {acts more : List Act} :
    d.Allowed h (acts ++ more) ↔ d.Allowed h acts ∧ d.Allowed (d.after h acts) more := by
  induction acts generalizing h with
  | nil => simp [Allowed]
  | cons a acts ih => simp [Allowed, ih, and_assoc]

theorem allows_of_mem {h : σ} {acts : List Act} {a : Act} (allowed : d.Allowed h acts)
    (ha : a ∈ acts) : ∃ h, d.allows h a.step := by
  induction acts generalizing h with
  | nil => cases ha
  | cons b acts ih =>
    obtain rfl | later := List.mem_cons.1 ha
    · exact ⟨h, allowed.1⟩
    · exact ih allowed.2 later

end Discipline

namespace Program

variable {α β σ τ : Type} {d : Discipline σ} {h : σ}

/-- Whatever its steps come to, a program does only what is allowed, and has `Q`
in the end. -/
def Keeps (d : Discipline σ) (Q : σ → α → Prop) : Program α → σ → Prop
  | done a, h => Q h a
  | step s next, h => d.allows h s ∧ ∀ r, (next r).Keeps d Q (d.next h ⟨s, r⟩)

theorem keeps_bind {Q : σ → β → Prop} {p : Program α} {f : α → Program β} :
    (p.bind f).Keeps d Q h ↔ p.Keeps d (fun h a => (f a).Keeps d Q h) h := by
  induction p generalizing h with
  | done a => rfl
  | step s next ih => simp only [bind_step, Keeps, ih]

theorem Keeps.mono {Q R : σ → α → Prop} {p : Program α} (keeps : p.Keeps d Q h)
    (le : ∀ h a, Q h a → R h a) : p.Keeps d R h := by
  induction p generalizing h with
  | done a => exact le h a keeps
  | step s next ih => exact ⟨keeps.1, fun r => ih r (keeps.2 r)⟩

theorem Keeps.bind {P : σ → α → Prop} {Q : σ → β → Prop} {p : Program α} {f : α → Program β}
    (keeps : p.Keeps d P h) (rest : ∀ h a, P h a → (f a).Keeps d Q h) : (p.bind f).Keeps d Q h :=
  keeps_bind.2 (keeps.mono rest)

/-- Where the second program only goes on after a success, an error is what the
first one came to. -/
theorem Keeps.andThen {P : σ → Except Error α → Prop} {Q : σ → Except Error β → Prop}
    {p : Program (Except Error α)} {f : α → Program (Except Error β)} (keeps : p.Keeps d P h)
    (error : ∀ h e, P h (.error e) → Q h (.error e))
    (ok : ∀ h a, P h (.ok a) → (f a).Keeps d Q h) : (p.andThen f).Keeps d Q h := by
  refine keeps.bind fun h r known => ?_
  cases r with
  | error e => exact error h e known
  | ok a => exact ok h a known

theorem keeps_log {level area fields message} {f : Unit → Program α} {Q : σ → α → Prop} :
    ((log level area fields message).bind f).Keeps d Q h ↔ (f ()).Keeps d Q h := by
  change d.allows h (.log _) ∧ (∀ r : Unit, (f r).Keeps d Q (d.next h ⟨.log _, r⟩)) ↔ _
  simp only [d.allows_log, d.next_log, true_and]
  exact ⟨fun all => all (), fun one _ => one⟩

/-- What holds with the list of what is still to do, and is kept by doing the
next of it, holds in the end. -/
theorem keeps_each {I : List α → σ → Prop} {f : α → Program Unit}
    (next : ∀ a as h, I (a :: as) h → (f a).Keeps d (fun h _ => I as h) h) (as : List α)
    (start : I as h) : (each f as).Keeps d (fun h _ => I [] h) h := by
  induction as generalizing h with
  | nil => exact start
  | cons a as ih => exact (next a as h start).bind fun h _ known => ih known

/-- Every step that one discipline allows is allowed by another one, which keeps
`I` meanwhile. -/
theorem Keeps.transfer {d' : Discipline τ} {I : τ → Prop} {Q : σ → α → Prop} {p : Program α}
    (keeps : p.Keeps d Q h)
    (le : ∀ h s, d.allows h s → ∀ h', I h' → d'.allows h' s ∧ ∀ r, I (d'.next h' ⟨s, r⟩))
    {h' : τ} (start : I h') : p.Keeps d' (fun h' _ => I h') h' := by
  induction p generalizing h h' with
  | done a => exact start
  | step s next ih =>
    obtain ⟨allowed, kept⟩ := le h s keeps.1 h' start
    exact ⟨allowed, fun r => ih r (keeps.2 r) (kept r)⟩

end Program

namespace Environment

open Concurrent

variable (env : Environment) {x : Executor} {w : env.State} {σ : Type}

/-- Where every call keeps to its discipline, so does every task in every
schedule: what it did was allowed, and what is left of it goes on from there. -/
theorem keeps_task {d : Call → Discipline σ} {init : Call → σ}
    {Q : (call : Call) → σ → call.Result → Prop}
    (keeps : ∀ call : Call, (call.program x).Keeps (d call) (Q call) (init call)) (moves : List Move)
    {i : Nat} {t : Task} (found : (env.interleave x w moves).tasks[i]? = some t) :
    (d t.call).Allowed (init t.call) ((env.interleave x w moves).actsOf i) ∧
      t.left.Keeps (d t.call) (Q t.call)
        ((d t.call).after (init t.call) ((env.interleave x w moves).actsOf i)) := by
  refine env.task_invariant
    (P := fun call acts left => (d call).Allowed (init call) acts ∧
      left.Keeps (d call) (Q call) ((d call).after (init call) acts))
    (fun call => ⟨trivial, keeps call⟩) (fun call acts s next ⟨allowed, left⟩ r => ?_) moves i t found
  refine ⟨(d call).allowed_append.2 ⟨allowed, left.1, trivial⟩, ?_⟩
  rw [(d call).after_append]
  exact left.2 r

end Environment

end QueryGate
