import QueryGate.Proofs.Concurrent.Machine
/-!
# Names and the active connection

However calls get between the steps of each other, the names in a registry are
distinct, and the active one is among them. Which one it is can be told from
what was done: the last switch that went well counts, or else the first entry.
-/

namespace QueryGate

/-- What every registry keeps to. -/
structure Registry.Sound (r : Registry) : Prop where
  distinct : (r.entries.map (·.config.name)).Nodup
  none_iff : r.active = none ↔ r.entries = []
  known : ∀ name, r.active = some name → name ∈ r.entries.map (·.config.name)
  empty_of_closed : r.closed → r.entries = []

namespace Registry

theorem contains_iff {r : Registry} {name : List Char} :
    r.contains name ↔ name ∈ r.entries.map (·.config.name) := by
  simp [contains, find?]

theorem sound_empty : empty.Sound := by
  constructor <;> simp [empty]

/-- Each step on the registry keeps it so. -/
theorem Sound.does {r after : Registry} {a : Act} (h : r.Sound) (does : r.Does a after) :
    after.Sound := by
  cases does with
  | @inserts e isOpen isNew =>
    have new : e.config.name ∉ r.entries.map (·.config.name) := by
      rw [← contains_iff, isNew]
      decide
    refine ⟨?_, by simp, ?_, by simp [isOpen]⟩
    · rw [List.map_append, List.nodup_append]
      refine ⟨h.distinct, by simp, fun name old name' last same => new ?_⟩
      have last : name' = e.config.name := by simpa using last
      rwa [← last, ← same]
    · intro name active
      obtain rfl : r.active.getD e.config.name = name := by simpa using active
      rw [List.map_append, List.mem_append]
      cases hr : r.active with
      | none => exact .inr (by simp)
      | some name => exact .inl (h.known name hr)
  | switches isKnown =>
    have isKnown := contains_iff.1 isKnown
    refine ⟨h.distinct, ?_, ?_, h.empty_of_closed⟩
    · simp only [reduceCtorEq, false_iff]
      intro none
      simp [none] at isKnown
    · intro name active
      cases active
      exact isKnown
  | closes isOpen => exact ⟨.nil, by simp, by simp, by simp⟩
  | _ => exact h

namespace Sound

variable {r : Registry}

/-- In an open registry the active name is that of an entry. -/
theorem activeEntry_ne_unknown (h : r.Sound) (name : String) :
    r.activeEntry ≠ .error (.unknownConnection name) := by
  unfold activeEntry
  split
  · simp [closedError]
  split
  · simp [noActiveError]
  · next active isActive =>
    have found : r.contains active := contains_iff.2 (h.known active isActive)
    split
    · simp
    · next missing => simp [contains, missing] at found

theorem countP_summaries (h : r.Sound) (some : r.entries ≠ []) :
    r.summaries.countP (·.active) = 1 := by
  cases hr : r.active with
  | none => exact absurd (h.none_iff.1 hr) some
  | some name =>
    have names : r.summaries.countP (·.active) = (r.entries.map (·.config.name)).count name := by
      rw [summaries, List.countP_map, List.count, List.countP_map]
      refine List.countP_congr fun e _ => ?_
      simp only [Function.comp, summaryOf, hr, beq_iff_eq, Option.some.injEq]
      exact eq_comm
    rw [names, h.distinct.count, if_pos (h.known name hr)]

end Sound

end Registry

namespace Act

/-- The entry that came into the registry. -/
def inserted? : Act → Option Entry
  | ⟨.insert e, .ok ()⟩ => some e
  | _ => none

/-- The name that became the active one by a switch. -/
def switchedTo? : Act → Option (List Char)
  | ⟨.setActive name, .ok _⟩ => some name
  | _ => none

/-- What `active` and `summaries` must not answer: an active connection that is
not there, and connections of which not exactly one is active. -/
def Selects : Act → Prop
  | ⟨.active, .error (.unknownConnection _)⟩ => False
  | ⟨.summaries, summaries⟩ => summaries ≠ [] → summaries.countP (·.active) = 1
  | _ => True

theorem selects_of_does {r after : Registry} {a : Act} (h : r.Sound) (does : r.Does a after) :
    a.Selects := by
  cases does with
  | tells =>
    unfold Selects
    split
    · next name told =>
      obtain ⟨-, told⟩ := Act.mk.inj told
      exact h.activeEntry_ne_unknown name (eq_of_heq told)
    · next told => cases told
    · trivial
  | lists =>
    intro listed
    exact h.countP_summaries fun none => listed (by simp [Registry.summaries, none])
  | @elsewhere a elsewhere =>
    obtain ⟨s, result⟩ := a
    cases s <;> trivial
  | _ => trivial

end Act

/-- The name that is active after what was done, while the registry is open. -/
def selected (acts : List Act) : Option (List Char) :=
  (acts.filterMap Act.switchedTo?).getLast?.or
    ((acts.filterMap Act.inserted?).head?.map (·.config.name))

theorem Registry.Does.selects {r after : Registry} {a : Act} {acts : List Act}
    (does : r.Does a after) (h : r.closed = false → r.active = selected acts)
    (isOpen : after.closed = false) : after.active = selected (acts ++ [a]) := by
  cases does with
  | @inserts e wasOpen isNew =>
    have before := h wasOpen
    simp only [before, selected, List.filterMap_append, List.filterMap_cons, List.filterMap_nil,
      Act.switchedTo?, Act.inserted?, List.append_nil, List.head?_append]
    cases (acts.filterMap Act.switchedTo?).getLast? <;>
      cases (acts.filterMap Act.inserted?).head? <;> simp
  | switches isKnown => simp [selected, Act.switchedTo?]
  | closes => cases isOpen
  | @elsewhere a elsewhere =>
    rw [h isOpen]
    obtain ⟨s, result⟩ := a
    cases s <;> first | exact elsewhere.elim | simp [selected, Act.switchedTo?, Act.inserted?]
  | _ => rw [h isOpen]; simp [selected, Act.switchedTo?, Act.inserted?]

namespace Environment

open Concurrent

variable (env : Environment) (x : Executor)

/-- Whatever calls come in and however they get between the steps of each other,
the registry keeps to its rules: its names are distinct, the active one is among
them, and there is one as soon as there is an entry. While it is open, the last
switch that went well says which, or the first entry. -/
theorem registry_sound {w : env.State} (h : env.registry w = .empty) (moves : List Move) :
    let m := env.interleave x w moves
    m.registry.Sound ∧
      (m.registry.closed = false → m.registry.active = selected m.acts) ∧
      (∀ name, m.registry.activeEntry ≠ .error (.unknownConnection name)) ∧
      (m.registry.entries ≠ [] → m.registry.summaries.countP (·.active) = 1) ∧
      ∀ a ∈ m.acts, a.Selects := by
  obtain ⟨sound, active, selects⟩ := env.invariant (x := x) (w := w)
    (P := fun m =>
      m.registry.Sound ∧ (m.registry.closed = false → m.registry.active = selected m.acts) ∧
        ∀ a ∈ m.acts, a.Selects)
    ⟨by simpa [Machine.registry, h] using Registry.sound_empty,
      by simp [Machine.registry, h, Machine.acts, selected, Registry.empty], by simp [Machine.acts]⟩
    (fun m call old => old)
    (fun m i call s next _ ⟨sound, active, selects⟩ => by
      have does : m.registry.Does _ (m.perform i call s next).registry := Machine.registry_perform
      rw [Machine.acts_perform]
      refine ⟨sound.does does, does.selects active, fun a ha => ?_⟩
      obtain old | now := List.mem_append.1 ha
      · exact selects a old
      · rw [List.mem_singleton.1 now]
        exact Act.selects_of_does sound does)
    moves
  exact ⟨sound, active, sound.activeEntry_ne_unknown, sound.countP_summaries, selects⟩

/-- Two calls add a connection of the same name, step by step in turns; a third
one switches to it in the end. -/
def racingAdds : List Move :=
  List.flatten
    [[.start (.add (shopConfig "main")), .start (.add (shopConfig "main"))],
     (List.replicate 6 [.advance 0, .advance 1]).flatten,
     [.start (.setActive "main".toList), .advance 2]]

/-- Both find the name free, and one of them is refused. -/
theorem registry_sound_racingAdds :
    let m := Scripted.World.environment.interleave ⟨30, 100⟩ shop racingAdds
    (m.acts.countP (fun a => match a with | ⟨.isTaken _, false⟩ => true | _ => false) = 2 ∧
      (m.acts.filterMap Act.inserted?).map (·.pool) = [0] ∧
      m.acts.filterMap Act.switchedTo? = ["main".toList]) ∧
    m.registry.Sound ∧ (m.registry.closed = false → m.registry.active = selected m.acts) :=
  let sound := Scripted.World.environment.registry_sound ⟨30, 100⟩ (w := shop) rfl racingAdds
  ⟨by decide +kernel, sound.1, sound.2.1⟩

end Environment

end QueryGate
