import QueryGate.Proofs.Concurrent.Selection
import QueryGate.Proofs.Concurrent.Serving
/-!
# Pools from hand to hand

A call that makes a pool, is given one, or takes one out of the registry has it
in hand until it registers it or closes it. `Hand` follows what a call has in
hand, and whether it changed the registry. `keeps_handing` says that every call
has nothing in hand in the end, and that it changed nothing if it failed.
-/

namespace QueryGate

open Program (Keeps keeps_bind keeps_log andThen)
open Concurrent

/-! ## What was done with pools -/

namespace Act

/-- The pool that was made. -/
def opened? : Act → Option PoolId
  | ⟨.openPool .., p⟩ => some p
  | _ => none

/-- The entries that were taken out of the registry. -/
def taken : Act → List Entry
  | ⟨.close, some entries⟩ => entries
  | _ => []

/-- The pool that was closed. -/
def closed? : Act → Option PoolId
  | ⟨.closePool p, _⟩ => some p
  | _ => none

end Act

namespace Concurrent

def opened (acts : List Act) : List PoolId := acts.filterMap Act.opened?

def inserted (acts : List Act) : List Entry := acts.filterMap Act.inserted?

def taken (acts : List Act) : List Entry := acts.flatMap Act.taken

def closed (acts : List Act) : List PoolId := acts.filterMap Act.closed?

@[simp] theorem opened_append (acts more : List Act) :
    opened (acts ++ more) = opened acts ++ opened more := List.filterMap_append

@[simp] theorem inserted_append (acts more : List Act) :
    inserted (acts ++ more) = inserted acts ++ inserted more := List.filterMap_append

@[simp] theorem taken_append (acts more : List Act) :
    taken (acts ++ more) = taken acts ++ taken more := List.flatMap_append

@[simp] theorem closed_append (acts more : List Act) :
    closed (acts ++ more) = closed acts ++ closed more := List.filterMap_append

namespace Call

/-- The pools a call has from the beginning. -/
def given : Call → List PoolId
  | addPool _ pool => [pool]
  | _ => []

/-- Whether a call is to register a pool. -/
def Adds : Call → Prop
  | add _ | addPool .. => True
  | _ => False

def Closes : Call → Prop
  | close => True
  | _ => False

def IsTool : Call → Prop
  | tool _ => True
  | _ => False

def Failed : (c : Call) → c.Result → Prop
  | add _, r | addPool .., r | setActive _, r | active, r | tool _, r => ∃ e, r = .error e
  | list, _ | close, _ => False

end Call

end Concurrent

/-! ## The discipline -/

structure Hand where
  pools : List PoolId
  /-- Whether the registry was changed. -/
  changed : Bool

namespace Hand

/-- What a call may do with pools: only one that it has in hand can be
registered or closed. -/
def Allows (c : Call) (h : Hand) : Step → Prop
  | .insert e => c.Adds ∧ e.pool ∈ h.pools
  | .openPool .. => c.Adds
  | .close => c.Closes
  | .closePool p => p ∈ h.pools
  | .lease _ | .retire _ | .execute .. | .fetch .. | .release _ => c.IsTool
  | _ => True

def next : Hand → Act → Hand
  | h, ⟨.openPool .., p⟩ => { h with pools := p :: h.pools }
  | h, ⟨.insert e, .ok ()⟩ => ⟨h.pools.erase e.pool, true⟩
  | h, ⟨.setActive _, .ok _⟩ => { h with changed := true }
  | h, ⟨.close, some entries⟩ => ⟨entries.map (·.pool) ++ h.pools, true⟩
  | h, ⟨.closePool p, _⟩ => { h with pools := h.pools.erase p }
  | h, _ => h

end Hand

def handing (c : Call) : Discipline Hand where
  allows := Hand.Allows c
  next := Hand.next
  allows_log _ _ := trivial
  next_log _ _ _ := rfl

/-! ## Every call keeps to it -/

section

variable {c : Call} {config : ConnectionConfig}

theorem keeps_makePool (adds : c.Adds) :
    (Registry.makePool config).Keeps (handing c)
      (fun h r => match r with
        | .ok pool => h = ⟨[pool], false⟩
        | .error _ => h = ⟨[], false⟩) ⟨[], false⟩ := by
  unfold Registry.makePool
  cases Dsn.read config.dsn with
  | error e => exact rfl
  | ok dsn =>
    refine Keeps.bind (P := fun h _ => h = ⟨[], false⟩) ?_ fun h _ none => ?_
    · refine Program.keeps_each (I := fun _ (h : Hand) => h = ⟨[], false⟩) (fun param rest h none => ?_) _ rfl
      exact ⟨trivial, fun _ => none⟩
    · subst none
      exact ⟨adds, fun pool => rfl⟩

/-- What calls of the registry come to: nothing is left in hand, and nothing was
changed by one that failed. -/
def Returned {α : Type} (h : Hand) (r : Except Error α) : Prop :=
  h.pools = [] ∧ ((∃ e, r = .error e) → h.changed = false)

theorem returned_ok {α : Type} {h : Hand} {a : α} (none : h.pools = []) : Returned h (.ok a) :=
  ⟨none, by simp⟩

theorem returned_error {α : Type} {h : Hand} {e : Error} (none : h.pools = [])
    (same : h.changed = false) : Returned h (.error e : Except Error α) :=
  ⟨none, fun _ => same⟩

theorem keeps_addPool (adds : c.Adds) (pool : PoolId) :
    (Registry.addPool config pool).Keeps (handing c) Returned ⟨[pool], false⟩ := by
  refine ⟨⟨adds, List.mem_singleton_self _⟩, fun r => ?_⟩
  cases r with
  | error e =>
    exact ⟨List.mem_singleton_self _, fun _ => returned_error (List.erase_cons_head _ _) rfl⟩
  | ok _ => exact keeps_log.2 (returned_ok (List.erase_cons_head _ _))

theorem keeps_add (adds : c.Adds) :
    (Registry.add config).Keeps (handing c) Returned ⟨[], false⟩ := by
  refine ⟨trivial, fun isTaken => ?_⟩
  cases isTaken with
  | true => exact returned_error rfl rfl
  | false =>
    refine keeps_log.2 ((keeps_makePool adds).andThen (fun h e none => ?_) fun h pool one => ?_)
    · subst none
      exact returned_error rfl rfl
    · subst one
      refine ⟨trivial, fun answer => ?_⟩
      dsimp only [Program.bind_done]
      cases Registry.pingError config.pool.options.acquireTimeout answer with
      | some e =>
        exact ⟨List.mem_singleton_self _, fun _ => returned_error (List.erase_cons_head _ _) rfl⟩
      | none => exact keeps_addPool adds pool

end

theorem keeps_switch (name : List Char) :
    (Registry.switch name).Keeps (handing (.setActive name)) Returned ⟨[], false⟩ := by
  refine ⟨trivial, fun r => ?_⟩
  cases r with
  | error e => exact returned_error rfl rfl
  | ok previous => exact keeps_log.2 (returned_ok rfl)

theorem keeps_closeAll :
    Registry.closeAll.Keeps (handing .close) (fun h _ => h.pools = []) ⟨[], false⟩ := by
  refine ⟨trivial, fun entries => ?_⟩
  cases entries with
  | none => exact rfl
  | some entries =>
    dsimp only [Program.bind_eq, Program.bind_done]
    refine Keeps.bind (P := fun h _ => h.pools = []) ?_ fun h _ none => ?_
    case refine_2 => exact ⟨trivial, fun _ => none⟩
    refine Program.keeps_each (I := fun entries (h : Hand) => h.pools = entries.map (·.pool))
      (fun e rest h all => ?_) entries ?_
    · have first : e.pool ∈ h.pools := by simp [all]
      refine ⟨first, fun _ => ⟨trivial, fun _ => ?_⟩⟩
      change h.pools.erase e.pool = _
      rw [all, List.map_cons, List.erase_cons_head]
    · exact List.append_nil _

/-- A tool never has a pool in hand. -/
theorem keeps_handing_tool (x : Executor) (c : Tool.Call) :
    (c.run x).Keeps (handing (.tool c)) (fun h _ => h.pools = []) ⟨[], false⟩ := by
  refine (Tool.keeps_tool x c).transfer (I := fun h : Hand => h.pools = [])
    (fun phase s allowed h none => ?_) rfl
  cases s
  case setActive name =>
    refine ⟨trivial, fun r => ?_⟩
    cases r <;> exact none
  case insert | openPool | close | closePool =>
    obtain _ | _ | ⟨_, _, _ | _ | _⟩ := phase <;> exact allowed.elim
  all_goals exact ⟨trivial, fun _ => none⟩

/-- What each call comes to. -/
def Concurrent.Call.Leaves (c : Call) (h : Hand) (r : c.Result) : Prop :=
  h.pools = [] ∧ (¬ c.IsTool → c.Failed r → h.changed = false)

theorem keeps_handing (x : Executor) (c : Call) :
    (c.program x).Keeps (handing c) c.Leaves ⟨c.given, false⟩ := by
  cases c with
  | add config =>
    exact (keeps_add (c := .add config) trivial).mono fun h r returned => ⟨returned.1, fun _ => returned.2⟩
  | addPool config pool =>
    exact (keeps_addPool (c := .addPool config pool) trivial pool).mono fun h r returned => ⟨returned.1, fun _ => returned.2⟩
  | setActive name => exact (keeps_switch name).mono fun h r returned => ⟨returned.1, fun _ => returned.2⟩
  | active => exact ⟨trivial, fun _ => ⟨rfl, fun _ _ => rfl⟩⟩
  | list => exact ⟨trivial, fun _ => ⟨rfl, fun _ => False.elim⟩⟩
  | close => exact keeps_closeAll.mono fun h _ none => ⟨none, fun _ => False.elim⟩
  | tool c =>
    exact (keeps_handing_tool x c).mono fun h _ none => ⟨none, fun tool => absurd trivial tool⟩

/-! ## The balance -/

/-- What comes in is in hand, goes into the registry, or is closed. -/
theorem balance_next {c : Call} {h : Hand} {a : Act} (allowed : h.Allows c a.step) (p : PoolId) :
    h.pools.count p + (opened [a]).count p + ((taken [a]).map (·.pool)).count p =
      (h.next a).pools.count p + ((inserted [a]).map (·.pool)).count p + (closed [a]).count p := by
  have erased {q : PoolId} (hq : q ∈ h.pools) :
      h.pools.count p = (h.pools.erase q).count p + [q].count p := by
    rw [(List.perm_cons_erase hq).count_eq, List.count_cons, List.count_singleton]
  obtain ⟨s, r⟩ := a
  cases s
  case openPool =>
    change _ + [r].count p + 0 = (r :: h.pools).count p + 0 + 0
    rw [List.count_cons (l := h.pools), List.count_singleton]
  case insert e =>
    cases r with
    | error _ => rfl
    | ok _ => exact erased allowed.2
  case setActive => cases r <;> rfl
  case close =>
    cases r with
    | none => rfl
    | some entries =>
      change _ + 0 + ((entries ++ []).map Entry.pool).count p =
        (entries.map Entry.pool ++ h.pools).count p + 0 + 0
      rw [List.append_nil, List.count_append]
      omega
  case closePool q => exact erased allowed
  all_goals rfl

theorem balance {c : Call} {h : Hand} {acts : List Act} (allowed : (handing c).Allowed h acts)
    (p : PoolId) :
    h.pools.count p + (opened acts).count p + ((taken acts).map (·.pool)).count p =
      ((handing c).after h acts).pools.count p + ((inserted acts).map (·.pool)).count p +
        (closed acts).count p := by
  induction acts generalizing h with
  | nil => rfl
  | cons a acts ih =>
    have first := balance_next allowed.1 p
    have rest := ih allowed.2
    rw [show a :: acts = [a] ++ acts from rfl, Discipline.after_append]
    simp only [opened_append, taken_append, inserted_append, closed_append, List.map_append,
      List.count_append]
    simp only [handing, Discipline.after_cons, Discipline.after_nil] at rest ⊢
    omega

end QueryGate
