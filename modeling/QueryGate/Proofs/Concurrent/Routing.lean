import QueryGate.Proofs.Concurrent.Handing
/-!
# Answers name their connection

A call may be switched under, or the registry closed, between any two of its
steps. It has asked for the active entry once by then: all it sends goes out on
connections of that entry's pool, and it answers in that entry's name.
-/

namespace QueryGate

open Program (Keeps)
open Concurrent

/-! ## The phases of every call -/

/-- Anything but a step on a connection. -/
def Step.IsUnconnected : Step → Prop
  | lease _ | retire _ | execute .. | fetch .. | release _ => False
  | _ => True

def unconnected : Discipline Phase where
  allows _ s := s.IsUnconnected
  next := Phase.next
  allows_log _ _ := trivial
  next_log h e r := (serving none).next_log h e r

namespace Concurrent.Call

/-- Calls of the registry need no connection. -/
def phases : Call → Discipline Phase
  | tool c => serving c.schema?
  | _ => unconnected

def Replies : (c : Call) → Phase → c.Result → Prop
  | tool c, h, r => c.Served h r
  | _, _, _ => True

theorem keeps_unconnected (x : Executor) {c : Call} (registry : ¬ c.IsTool) :
    (c.program x).Keeps unconnected (fun _ _ => True) .idle := by
  refine (keeps_handing x c).transfer (I := fun _ => True) (fun h s allowed _ _ => ⟨?_, fun _ => trivial⟩)
    trivial
  cases s <;> trivial

theorem keeps_phases (x : Executor) (c : Call) :
    (c.program x).Keeps c.phases c.Replies .idle := by
  cases c with
  | tool c => exact Tool.keeps_tool x c
  | _ => exact keeps_unconnected x id

end Concurrent.Call

/-! ## Where things are sent -/

/-- The connection that a text is sent on. -/
def Step.sentOn? : Step → Option LeaseId
  | execute l _ | fetch l _ => some l
  | _ => none

/-- A connection was taken out of the pool, and not given back since. -/
def Leased (acts : List Act) (pool : PoolId) (l : LeaseId) : Prop :=
  ∃ first between, acts = first ++ ⟨.lease pool, .ok l⟩ :: between ∧ ⟨.release l, ()⟩ ∉ between

theorem Leased.append {acts : List Act} {pool : PoolId} {l : LeaseId} {a : Act}
    (h : Leased acts pool l) (keeps : a ≠ ⟨.release l, ()⟩) : Leased (acts ++ [a]) pool l := by
  obtain ⟨first, between, rfl, notBack⟩ := h
  refine ⟨first, between ++ [a], by simp, fun back => ?_⟩
  obtain old | now := List.mem_append.1 back
  · exact notBack old
  · exact keeps (List.mem_singleton.1 now).symm

/-- What a call did that was told an entry, or none. -/
structure Routed (acts : List Act) (e : Option Entry) : Prop where
  told : ∀ e', e = some e' → ⟨.active, .ok e'⟩ ∈ acts
  leases : ∀ pool r, ⟨.lease pool, r⟩ ∈ acts → ∃ e', e = some e' ∧ pool = e'.pool
  sends : ∀ k a l, acts[k]? = some a → a.step.sentOn? = some l →
    ∃ e', e = some e' ∧ Leased (acts.take k) e'.pool l

namespace Routed

variable {acts : List Act} {e : Option Entry} {a : Act}

theorem nil : Routed [] none := by
  constructor <;> simp

/-- One more step, on the right pool and on a connection at hand. -/
theorem step (h : Routed acts e)
    (leases : ∀ pool r, a = ⟨.lease pool, r⟩ → ∃ e', e = some e' ∧ pool = e'.pool)
    (sends : ∀ l, a.step.sentOn? = some l → ∃ e', e = some e' ∧ Leased acts e'.pool l) :
    Routed (acts ++ [a]) e := by
  refine ⟨fun e' same => List.mem_append_left _ (h.told e' same), fun pool r hr => ?_,
    fun k b l hk hl => ?_⟩
  · obtain old | now := List.mem_append.1 hr
    · exact h.leases pool r old
    · exact leases pool r (List.mem_singleton.1 now).symm
  · obtain ⟨inside, -⟩ := List.getElem?_eq_some_iff.1 hk
    rw [List.length_append, List.length_singleton] at inside
    rw [List.take_append_of_le_length (by omega)]
    by_cases last : k = acts.length
    · subst last
      obtain rfl : a = b := by simpa using hk
      rw [List.take_length]
      exact sends l hl
    · rw [List.getElem?_append_left (by omega)] at hk
      exact h.sends k b l hk hl

/-- A step that is neither a lease nor a text. -/
theorem quiet (h : Routed acts e) (noLease : ∀ pool r, a ≠ ⟨.lease pool, r⟩)
    (noText : a.step.sentOn? = none) : Routed (acts ++ [a]) e :=
  h.step (fun pool r same => absurd same (noLease pool r)) (by simp [noText])

/-- A call that was told nothing yet has sent nothing. -/
theorem tell (h : Routed acts none) (e : Entry) : Routed (acts ++ [⟨.active, .ok e⟩]) (some e) := by
  have quiet : Routed (acts ++ [⟨.active, .ok e⟩]) none := h.quiet (by simp) rfl
  refine ⟨fun e' same => ?_, fun pool r hr => ?_, fun k a l hk hl => ?_⟩
  · cases same
    simp
  · obtain ⟨e', same, -⟩ := quiet.leases pool r hr
    cases same
  · obtain ⟨e', same, -⟩ := quiet.sends k a l hk hl
    cases same

end Routed

/-- What a call did, by the phase it is in. -/
structure Phase.Shows (h : Phase) (acts : List Act) : Prop where
  routed : Routed acts h.entry?
  holds : ∀ e l grip, h = holding e l grip → Leased acts e.pool l

namespace Phase.Shows

theorem nil : Phase.idle.Shows [] := ⟨.nil, by simp⟩

variable {schema : Option (List Char)} {h after : Phase} {acts : List Act} {a : Act}

/-- Each step of a call fits what it did before. -/
theorem step (shows : h.Shows acts) (goes : h.Goes schema a after) : after.Shows (acts ++ [a]) := by
  obtain ⟨routed, holds⟩ := shows
  -- A text goes out on the connection in hand.
  have sends {e : Entry} {l : LeaseId} {grip : Grip} (hand : h = holding e l grip) :
      ∀ l', some l = some l' → ∃ e', h.entry? = some e' ∧ Leased acts e'.pool l' := by
    rintro l' ⟨⟩
    exact ⟨e, by rw [hand]; rfl, holds e l grip hand⟩
  -- It stays in hand until it is given back.
  have keeps {e : Entry} {l : LeaseId} {grip grip' : Grip} (hand : h = holding e l grip)
      (other : a ≠ ⟨.release l, ()⟩) :
      ∀ e' l' g, holding e l grip' = holding e' l' g → Leased (acts ++ [a]) e'.pool l' := by
    rintro e' l' g ⟨⟩
    exact (holds e l grip hand).append other
  cases goes with
  | logs =>
    exact ⟨routed.quiet nofun rfl, fun e l grip hand => (holds e l grip hand).append nofun⟩
  | lists | switches | unrouted => exact ⟨routed.quiet nofun rfl, nofun⟩
  | @routes e => exact ⟨routed.tell e, nofun⟩
  | @leases e l =>
    refine ⟨routed.step (fun pool r same => ⟨e, rfl, ?_⟩) nofun, ?_⟩
    · cases same
      rfl
    · rintro e' l' grip ⟨⟩
      exact ⟨acts, [], rfl, nofun⟩
  | @unleased e r =>
    refine ⟨routed.step (fun pool r same => ⟨e, rfl, ?_⟩) nofun, by simp⟩
    cases same
    rfl
  | retires => exact ⟨routed.quiet nofun rfl, keeps rfl nofun⟩
  | uses | unused | fetches => exact ⟨routed.step nofun (sends rfl), keeps rfl nofun⟩
  | releases => exact ⟨routed.quiet nofun rfl, nofun⟩

/-- So does all that a call does. -/
theorem of_allowed (shows : h.Shows acts) {more : List Act}
    (allowed : (serving schema).Allowed h more) :
    ((serving schema).after h more).Shows (acts ++ more) := by
  induction more generalizing h acts with
  | nil => simpa using shows
  | cons a more ih =>
    rw [List.append_cons]
    exact ih (shows.step (Phase.goes allowed.1 a.result)) allowed.2

end Phase.Shows

/-! ## What a schedule comes to -/

theorem Registry.activeEntry_ok {r : Registry} {e : Entry} (h : r.activeEntry = .ok e) :
    r.active = some e.config.name ∧ e ∈ r.entries := by
  unfold activeEntry at h
  split at h
  · cases h
  split at h
  · cases h
  · next name isActive =>
    split at h
    · next found =>
      cases h
      obtain rfl : e.config.name = name := by simpa using List.find?_some found
      exact ⟨isActive, List.mem_of_find?_eq_some found⟩
    · cases h

theorem Registry.Does.told {r after : Registry} {e : Entry} (does : r.Does ⟨.active, .ok e⟩ after) :
    r.active = some e.config.name ∧ e ∈ r.entries := by
  generalize same : (⟨.active, .ok e⟩ : Act) = a at does
  cases does with
  | tells =>
    injection same with _ same
    exact Registry.activeEntry_ok same.symm
  | elsewhere elsewhere =>
    subst same
    exact elsewhere.elim
  | _ => cases same

namespace Environment

variable (env : Environment) {x : Executor} {w : env.State}

/-- However calls get between the steps of each other, a call that succeeds
answers in the name of an entry that was active during the call. It takes
connections from the pool of that entry only, and all it sends goes out on
them. -/
theorem answer_routed (x : Executor) (w : env.State) (moves : List Move) {i : Nat} {c : Tool.Call}
    {o : Tool.Output}
    (ended : (env.interleave x w moves).tasks[i]? = some ⟨.tool c, .done (.ok o)⟩)
    (routed : c.IsRouted) :
    let m := env.interleave x w moves
    ∃ e, o.connection? = some (.ofList e.config.name) ∧
      (∃ h ∈ m.history, h.task = i ∧ (env.registry h.before).active = some e.config.name ∧
        e ∈ (env.registry h.before).entries) ∧
      (∀ pool r, ⟨.lease pool, r⟩ ∈ m.actsOf i → pool = e.pool) ∧
      ∀ k a l, (m.actsOf i)[k]? = some a → a.step.sentOn? = some l →
        Leased ((m.actsOf i).take k) e.pool l := by
  obtain ⟨allowed, served⟩ := env.keeps_task (Call.keeps_phases x) moves ended
  obtain ⟨e, phase, named⟩ := (served.2 routed).2 o rfl
  have shows := Phase.Shows.nil.of_allowed allowed
  change (serving c.schema?).after .idle _ = _ at phase
  rw [List.nil_append, phase] at shows
  refine ⟨e, named, ?_, fun pool r hr => ?_, fun k a l hk hl => ?_⟩
  · obtain ⟨h, hm, task, told⟩ := Machine.mem_actsOf.1 (shows.routed.told e rfl)
    have does := env.does_moment moves h hm
    rw [told] at does
    exact ⟨h, hm, task, does.told⟩
  · obtain ⟨e', same, onPool⟩ := shows.routed.leases pool r hr
    cases same
    exact onPool
  · obtain ⟨e', same, leased⟩ := shows.routed.sends k a l hk hl
    cases same
    exact leased

/-- While a query is under way, another call switches the connection, and a
third one closes the registry. -/
def switchedBetween : List Move :=
  List.flatten
    [[.start (.add (shopConfig "main")), .start (.add (shopConfig "other"))],
     List.replicate 6 (.advance 0), List.replicate 6 (.advance 1),
     [.start (.tool (.runQuery ⟨"SELECT 1".toList, none, none, .json⟩)),
      .start (.tool (.useConnection "other".toList)), .start .close],
     [.advance 2, .advance 3, .advance 3, .advance 2, .advance 2, .advance 4],
     List.replicate 3 (.advance 2)]

/-- What a query came to, if it was answered. -/
def answer? : Option Task → Option Tool.Output
  | some ⟨.tool (.runQuery _), .done (.ok o)⟩ => some o
  | _ => none

theorem over_of_answer? {t : Option Task} {o : Tool.Output} (h : answer? t = some o) :
    ∃ input, t = some ⟨.tool (.runQuery input), .done (.ok o)⟩ := by
  unfold answer? at h
  split at h
  · cases h
    exact ⟨_, rfl⟩
  · cases h

/-- The query still answers in the name of the connection it began with. -/
theorem answer_routed_switchedBetween :
    let m := Scripted.World.environment.interleave ⟨30, 100⟩ shop switchedBetween
    (m.registry.closed ∧ m.acts.filterMap Act.switchedTo? = ["other".toList] ∧
      (answer? m.tasks[2]?).bind Tool.Output.connection? = some "main") ∧
    ∃ (o : Tool.Output) (e : Entry), answer? m.tasks[2]? = some o ∧
      o.connection? = some (.ofList e.config.name) ∧
      ∀ pool r, ⟨.lease pool, r⟩ ∈ m.actsOf 2 → pool = e.pool := by
  refine (and_iff_left_of_imp fun ran => ?_).2 (by decide +kernel)
  obtain ⟨o, answered, -⟩ := Option.bind_eq_some_iff.1 ran.2.2
  obtain ⟨input, ended⟩ := over_of_answer? answered
  obtain ⟨e, connection, -, leases, -⟩ :=
    Scripted.World.environment.answer_routed ⟨30, 100⟩ shop switchedBetween ended trivial
  exact ⟨o, e, answered, connection, leases⟩

end Environment

end QueryGate
