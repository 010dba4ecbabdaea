import QueryGate.Proofs.Trace
/-!
# Programs by themselves

A program with no other one beside it finds the registry as its own steps left
it. `Ensures` follows the registry along with what was done, whatever the
servers answer; `Environment.ensures` says that it tells of every run.
-/

namespace QueryGate

namespace Program

variable {α β γ : Type}

theorem bind_assoc (p : Program α) (f : α → Program β) (g : β → Program γ) :
    (p.bind f).bind g = p.bind fun a => (f a).bind g := by
  induction p with
  | done a => rfl
  | step s next ih => exact congrArg (step s) (funext ih)

/-- What is said of the end of a run: of its value, of all that was done, and of
the registry. -/
abbrev Outcome (α : Type) := α → List Act → Registry → Prop

/-- Begun on a registry, a program has `Q` in the end. Steps on the registry are
answered from it, and the others may come to anything. -/
def Ensures : Program α → Registry → Outcome α → Prop
  | done a, r, Q => Q a [] r
  | step s next, r, Q =>
    match r.respond? s with
    | some (result, after) =>
      (next result).Ensures after fun a acts => Q a (⟨s, result⟩ :: acts)
    | none => ∀ result, (next result).Ensures r fun a acts => Q a (⟨s, result⟩ :: acts)

variable {Q : Outcome β} {r : Registry}

theorem Ensures.mono {P Q : Outcome α} {p : Program α} (h : p.Ensures r P)
    (le : ∀ a acts after, P a acts after → Q a acts after) : p.Ensures r Q := by
  induction p generalizing r P Q with
  | done a => exact le a [] r h
  | step s next ih =>
    unfold Ensures at h ⊢
    split at h
    · exact ih _ h fun a acts after => le a _ after
    · exact fun result => ih _ (h result) fun a acts after => le a _ after

theorem ensures_bind {p : Program α} {f : α → Program β} :
    (p.bind f).Ensures r Q ↔ p.Ensures r fun a acts after =>
      (f a).Ensures after fun b more => Q b (acts ++ more) := by
  induction p generalizing r Q with
  | done a => rfl
  | step s next ih =>
    rw [bind_step, Ensures, Ensures]
    split
    · exact ih _
    · exact forall_congr' fun result => ih _

/-- From what a program comes to, the next one goes on. -/
theorem Ensures.bind {P : Outcome α} {p : Program α} {f : α → Program β} (h : p.Ensures r P)
    (rest : ∀ a acts after, P a acts after →
      (f a).Ensures after fun b more => Q b (acts ++ more)) : (p.bind f).Ensures r Q :=
  ensures_bind.2 (h.mono rest)

/-- The same where the program stops at an error. -/
theorem Ensures.andThen {P : Outcome (Except Error α)} {Q : Outcome (Except Error β)}
    {p : Program (Except Error α)} {f : α → Program (Except Error β)} (h : p.Ensures r P)
    (error : ∀ e acts after, P (.error e) acts after → Q (.error e) acts after)
    (ok : ∀ a acts after, P (.ok a) acts after →
      (f a).Ensures after fun b more => Q b (acts ++ more)) : (p.andThen f).Ensures r Q := by
  refine h.bind fun result acts after known => ?_
  cases result with
  | error e =>
    change Q _ (acts ++ []) _
    rw [List.append_nil]
    exact error e acts after known
  | ok a => exact ok a acts after known

theorem ensures_log {level area fields message} {f : Unit → Program β} :
    ((log level area fields message).bind f).Ensures r Q ↔
      (f ()).Ensures r fun b acts => Q b (⟨.log ⟨level, area, message, fields⟩, ()⟩ :: acts) :=
  ⟨fun all => all (), fun one _ => one⟩

/-- What holds with the list of what is still to do, and is kept by doing the
next of it, holds in the end. `acts` were done before. -/
theorem ensures_each {I : List α → List Act → Registry → Prop} {f : α → Program Unit}
    (next : ∀ a as acts r, I (a :: as) acts r →
      (f a).Ensures r fun _ more after => I as (acts ++ more) after)
    (as : List α) (acts : List Act) (start : I as acts r) :
    (each f as).Ensures r fun _ more after => I [] (acts ++ more) after := by
  induction as generalizing acts r with
  | nil =>
    change I [] (acts ++ []) r
    rwa [List.append_nil]
  | cons a as ih =>
    refine (next a as acts r start).bind fun _ more after known => ?_
    simpa only [List.append_assoc] using ih _ known

end Program

namespace Environment

variable (env : Environment) {α : Type}

/-- What a program ensures is so in every run. -/
theorem ensures {Q : Program.Outcome α} {p : Program α} {w : env.State}
    (h : p.Ensures (env.registry w) Q) :
    Q (p.run env.answer w).1 (p.trace env.answer w) (env.registry (p.run env.answer w).2) := by
  induction p generalizing w Q with
  | done a => exact h
  | step s next ih =>
    unfold Program.Ensures at h
    split at h
    · next result after responds =>
      obtain ⟨hresult, hafter⟩ := Prod.mk.inj (env.responds s w (result, after) responds)
      subst hresult hafter
      exact ih _ h
    · next none =>
      have same := env.elsewhere s w none
      exact ih _ (same ▸ h (env.answer s w).1)

end Environment

end QueryGate
