import QueryGate.Proofs.Dsn.Mask
import QueryGate.Proofs.Startup
/-!
# What is configured is offered

Tools neither add connections nor take any out. So after a start those that are
listed are the configured ones, and a switch to any of them succeeds: its name is
found again, as there is nothing to trim off it.
-/

namespace QueryGate

open Concurrent

/-! ## Tools keep the connections -/

/-- Whether a step neither registers a connection nor closes the registry. -/
def Step.KeepsEntries : Step → Prop
  | insert _ | close => False
  | _ => True

theorem Registry.Does.entries_eq {r after : Registry} {a : Act} (does : r.Does a after)
    (keeps : a.step.KeepsEntries) : after.entries = r.entries := by
  cases does with
  | inserts | closes => exact keeps.elim
  | _ => rfl

theorem Hand.Allows.keepsEntries {c : Call} {h : Hand} {s : Step} (allowed : h.Allows c s)
    (tool : c.IsTool) : s.KeepsEntries := by
  cases c <;> cases tool
  cases s with
  | insert | close => exact nomatch allowed
  | _ => trivial

namespace Environment

variable (env : Environment)

theorem entries_of_tools (x : Executor) (w : env.State) (moves : List Move)
    (tools : ∀ t ∈ (env.interleave x w moves).tasks, t.call.IsTool) :
    (env.interleave x w moves).registry.entries = (env.registry w).entries := by
  revert tools
  refine env.reached_invariant (P := fun m => (∀ t ∈ m.tasks, t.call.IsTool) →
    m.registry.entries = (env.registry w).entries) (fun _ => rfl) (fun moves call same tools => ?_)
    (fun moves i call s next found same tools => ?_) moves
  · exact same fun t ht => tools t (List.mem_append_left _ ht)
  · -- A task is never taken off the list, so all that were there are tools as well.
    have before : ∀ t ∈ (env.interleave x w moves).tasks, t.call.IsTool := by
      intro t ht
      obtain ⟨j, hj⟩ := List.mem_iff_getElem?.1 ht
      obtain ⟨left, goesOn⟩ := Machine.call_of_perform found hj
      exact tools ⟨t.call, left⟩ (List.mem_of_getElem? goesOn)
    have allowed := (env.keeps_task (keeps_handing x) moves found).2.1
    have tool : call.IsTool := before _ (List.mem_of_getElem? found)
    rw [Machine.registry_perform.entries_eq (Hand.Allows.keepsEntries allowed tool), same before]

/-! ## A switch -/

theorem run_useConnection {name : List Char} {w : env.State}
    (known : (env.registry w).contains (Text.trim name)) :
    ((Tool.useConnection name).run env.answer w).1 = .ok (.switched (Text.trim name)) := by
  obtain ⟨event, he⟩ := Tool.useConnection_eq name
  have switched : (env.registry w).respond? (.setActive (Text.trim name)) =
      some (.ok (env.registry w).active, { env.registry w with active := some (Text.trim name) }) := by
    simp [Registry.respond?, Registry.setActive, known]
  have told := (Prod.mk.inj (env.responds _ w _ switched)).1
  simp only [he, Program.run, told]

/-- As long as only tools are called, the connections of these names are listed,
and a switch to one that is listed succeeds. -/
def Offers (w : env.State) (names : List (List Char)) : Prop :=
  ∀ (x : Executor) (moves : List Move),
    let m := env.interleave x w moves
    (∀ t ∈ m.tasks, t.call.IsTool) →
      ∃ listed, (Tool.listConnections.run env.answer m.state).1 = .ok (.connections listed) ∧
        listed.map (·.name) = names ∧
        ∀ c ∈ listed,
          ((Tool.useConnection c.name).run env.answer m.state).1 = .ok (.switched c.name)

theorem offers_of_entries {w : env.State} {configs : List ConnectionConfig}
    (held : (env.registry w).entries.map Entry.config = configs)
    (plain : ∀ config ∈ configs, PlainName config.name) : env.Offers w (configs.map (·.name)) := by
  intro x moves m tools
  have same : m.registry.entries = (env.registry w).entries := env.entries_of_tools x w moves tools
  refine ⟨m.registry.summaries, env.run_listConnections m.state, ?_, fun c hc => ?_⟩
  · rw [← held, ← same, Registry.summaries, List.map_map, List.map_map]
    rfl
  · obtain ⟨e, he, rfl⟩ := List.mem_map.1 hc
    have name : Text.trim e.config.name = e.config.name :=
      (plain _ (held ▸ same ▸ List.mem_map_of_mem he)).trim
    have known : m.registry.contains (Text.trim e.config.name) :=
      Registry.contains_iff.2 (name.symm ▸ List.mem_map_of_mem he)
    have switched := env.run_useConnection known
    rwa [name] at switched

end Environment

namespace Server

theorem Starts.holds {s : Settings} {acts : List Act} {r : Registry} (h : Starts s (.ok ()) acts r) :
    s.configs = .ok (r.entries.map Entry.config) := by
  cases h with
  | ready configs _ _ => exact configs

end Server

/-! ## All of it -/

namespace Settings

open Server (opening)

/-- The connections are accepted just if each text is by itself, under names that
are all different, and else the first text that is not says why. There is one for
each text then, in their order, and after a start they are on offer. -/
theorem configs_exact (s : Settings) :
    ((∃ configs, s.configs = .ok configs) ↔ ∃ specs, s.shared.Acceptable s.connections specs) ∧
    (∀ configs, s.configs = .ok configs →
      List.Forall₂ s.shared.Configures s.connections configs ∧
      (∀ config ∈ configs, PlainName config.name ∧ Text.trim config.name = config.name) ∧
      ∀ (env : Environment) (w : env.State), env.registry w = .empty →
        ((opening s).run env.answer w).1 = .ok () →
        env.Offers ((opening s).run env.answer w).2 (configs.map (·.name))) ∧
    (∀ fault, s.configs = .error fault ↔
      ∃ front text rest specs, s.connections = front ++ text :: rest ∧
        s.shared.Acceptable front specs ∧ s.shared.Refuses (specs.map (·.name)) text fault) := by
  refine ⟨?_, fun configs accepted => ?_, fun fault => SharedSettings.connections_eq_error_iff⟩
  · constructor
    · rintro ⟨configs, accepted⟩
      obtain ⟨specs, acceptable, -⟩ := SharedSettings.exists_connections_iff.1 ⟨configs, accepted, rfl⟩
      exact ⟨specs, acceptable⟩
    · rintro ⟨specs, acceptable⟩
      obtain ⟨configs, accepted, -⟩ := SharedSettings.exists_connections_iff.2 ⟨specs, acceptable, rfl⟩
      exact ⟨configs, accepted⟩
  · obtain ⟨configured, -⟩ := SharedSettings.connections_eq_ok_iff.1 accepted
    have plain : ∀ config ∈ configs, PlainName config.name := by
      intro config hc
      obtain ⟨text, -, made⟩ := exists_of_forall₂ configured hc
      exact made.plainName
    refine ⟨configured, fun config hc => ⟨plain config hc, (plain config hc).trim⟩, ?_⟩
    intro env w fresh started
    have starts : Server.Starts s _ _ _ := env.ensures (fresh ▸ Server.ensures_opening s)
    rw [started] at starts
    have same := starts.holds.symm.trans accepted
    exact env.offers_of_entries (Except.ok.inj same) plain

def given (connections : List String) : Settings :=
  { Environment.halfReached with connections := connections.map String.toList }

/-- Two connections, the second without a name: the equals sign in it belongs to a
parameter. -/
def shops : Settings :=
  given ["a-1=root@tcp(localhost)/home", " root@tcp(localhost)/home?charset=utf8 "]

/-- The name of the second connection is given to the third. -/
def shopsTwice : Settings :=
  given ["a-1=root@tcp(localhost)/home", "root@tcp(localhost)/home", "default=root@/home"]

theorem configs_exact_shops :
    (∃ configs, shops.configs = .ok configs ∧
      configs.map (·.name) = ["a-1".toList, "default".toList] ∧
      List.Forall₂ shops.shared.Configures shops.connections configs ∧
      ((opening shops).run Scripted.World.environment.answer shop).1 = .ok () ∧
      Scripted.World.environment.Offers
        ((opening shops).run Scripted.World.environment.answer shop).2 (configs.map (·.name))) ∧
    ∃ front text rest specs, shopsTwice.connections = front ++ text :: rest ∧
      shopsTwice.shared.Acceptable front specs ∧
      shopsTwice.shared.Refuses (specs.map (·.name)) text (.duplicateName "default".toList) := by
  have names : shops.configs.map (·.map (·.name)) = .ok ["a-1".toList, "default".toList] := by
    decide +kernel
  obtain ⟨configs, accepted, same⟩ := map_eq_ok.1 names
  obtain ⟨configured, -, offers⟩ := (configs_exact shops).2.1 configs accepted
  have started : ((opening shops).run Scripted.World.environment.answer shop).1 = .ok () := by
    cases start : ((opening shops).run Scripted.World.environment.answer shop).1 with
    | ok _ => rfl
    | error ending =>
      have fine : ((opening shops).run Scripted.World.environment.answer shop).1.isOk := by
        decide +kernel
      rw [start] at fine
      cases fine
  exact ⟨⟨configs, accepted, same, configured, started,
      offers Scripted.World.environment shop rfl started⟩,
    ((configs_exact shopsTwice).2.2 _).1 (by decide +kernel)⟩

end Settings

end QueryGate
