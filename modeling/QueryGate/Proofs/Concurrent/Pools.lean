import QueryGate.Proofs.Concurrent.Routing
import QueryGate.Proofs.Concurrent.Switching
/-!
# Connections of pools

A pool opens its connections with the default schema of its DSN, its home. Only
a `USE` changes that, and a connection that was retired never comes back;
`Evolves` says this of a step, and `tidy` that idle connections are then at
home after every schedule, and those in use as far as their call got.
-/

namespace QueryGate

open Sql.Identifier (Quoted)
open Concurrent

/-! ## Pools -/

inductive Whereabouts where
  | idle
  /-- In use. -/
  | away
  /-- In use for the last time. -/
  | retired
  deriving DecidableEq

structure Connection where
  pool : PoolId
  /-- The default schema it has now. -/
  schema : Option (List Char)
  whereabouts : Whereabouts

structure Pools where
  /-- The default schema in the DSN of a pool. -/
  home : PoolId → Option (List Char)
  connections : LeaseId → Option Connection

/-- The connection that a step is done on, or that it takes. -/
def Act.connection? : Act → Option LeaseId
  | ⟨.lease _, .ok l⟩ | ⟨.retire l, _⟩ | ⟨.execute l _, _⟩ | ⟨.fetch l _, _⟩ | ⟨.release l, _⟩ =>
    some l
  | _ => none

theorem Act.connection?_of_failed {pool : PoolId} {r : Answer LeaseId} (failed : r.isOk = false) :
    (⟨.lease pool, r⟩ : Act).connection? = none := by
  cases r with
  | ok l => cases failed
  | failed | timedOut => rfl

namespace Pools

variable {ps ps' : Pools} {a : Act} {l : LeaseId} {k : Connection}

def AtHome (ps : Pools) : Prop :=
  ∀ l k, ps.connections l = some k → k.whereabouts = .idle → k.schema = ps.home k.pool

def InUse (ps : Pools) (l : LeaseId) (k : Connection) : Prop :=
  ps.connections l = some k ∧ k.whereabouts ≠ .idle

/-- What a step leaves of the pools and connections it is not done on. -/
structure Aside (ps : Pools) (a : Act) (ps' : Pools) : Prop where
  /-- Nobody else touches a connection in use. -/
  kept : ∀ l k, a.connection? ≠ some l → ps.InUse l k → ps'.connections l = some k
  /-- Any other idle connection was idle before, or was opened just now. -/
  idled : ∀ l k, a.connection? ≠ some l → ps'.connections l = some k → k.whereabouts = .idle →
    ps.connections l = some k ∨ ps.connections l = none ∧ k.schema = ps'.home k.pool
  made : ∀ options limits pool, a = ⟨.openPool options limits, pool⟩ →
    ps'.home pool = options.database ∧ ∀ l k, ps.connections l = some k → k.pool ≠ pool
  homes : ∀ pool, (∀ options limits, a ≠ ⟨.openPool options limits, pool⟩) →
    ps'.home pool = ps.home pool

/-- What a step does to pools and their connections. Of a step on a connection
that is not in use, nothing is known. -/
structure Evolves (ps : Pools) (a : Act) (ps' : Pools) : Prop extends Aside ps a ps' where
  /-- A connection that is taken was idle, or is opened for it. -/
  leased : ∀ pool l, a = ⟨.lease pool, .ok l⟩ → ∃ schema,
    ps'.connections l = some ⟨pool, schema, .away⟩ ∧
      (ps.connections l = some ⟨pool, schema, .idle⟩ ∨
        ps.connections l = none ∧ schema = ps'.home pool)
  retired : ∀ l r k, a = ⟨.retire l, r⟩ → ps.InUse l k →
    ps'.connections l = some { k with whereabouts := .retired }
  /-- A `USE` that the server took switches to the schema it names. -/
  executed : ∀ l sql r k, a = ⟨.execute l sql, r⟩ → ps.InUse l k → ∃ schema,
    ps'.connections l = some { k with schema } ∧
      ∀ name quoted, Quoted name quoted → sql = "USE ".toList ++ quoted → r = .ok () →
        schema = some name
  /-- Without a `USE`, the schema stays. -/
  fetched : ∀ l sql r k, a = ⟨.fetch l sql, r⟩ → ps.InUse l k → ∃ schema,
    ps'.connections l = some { k with schema } ∧ (¬ MaySwitch sql → schema = k.schema)
  /-- What is given back is idle as it is, if at all, and only if it was not
  retired. -/
  released : ∀ l r k, a = ⟨.release l, r⟩ → ps.InUse l k → ∀ k', ps'.connections l = some k' →
    k'.whereabouts = .idle → k.whereabouts = .away ∧ k'.pool = k.pool ∧ k'.schema = k.schema

namespace Evolves

variable (evolves : ps.Evolves a ps')

include evolves

theorem home_eq (known : ps.connections l = some k) : ps'.home k.pool = ps.home k.pool :=
  evolves.homes k.pool fun options limits made =>
    (evolves.made options limits k.pool made).2 l k known rfl

/-- Idle connections stay at home, if the one that the step is done on does. -/
theorem atHome (atHome : ps.AtHome)
    (own : ∀ l k, a.connection? = some l → ps'.connections l = some k → k.whereabouts = .idle →
      k.schema = ps'.home k.pool) : ps'.AtHome := by
  intro l k known idle
  by_cases same : a.connection? = some l
  · exact own l k same known idle
  · obtain before | ⟨-, opened⟩ := evolves.idled l k same known idle
    · rw [atHome l k before idle, evolves.home_eq before]
    · exact opened

theorem not_inUse_of_leased {pool : PoolId} (taken : a = ⟨.lease pool, .ok l⟩) :
    ¬ ps.InUse l k := by
  rintro ⟨known, inUse⟩
  obtain ⟨schema, -, idle | ⟨none, -⟩⟩ := evolves.leased pool l taken
  · rw [known] at idle
    cases idle
    exact inUse rfl
  · rw [known] at none
    cases none

end Evolves

end Pools

/-! ## Connections in use -/

/-- A connection that is prepared as far as the grip says. -/
def Grip.Fits (schema home : Option (List Char)) (k : Connection) : Grip → Prop
  | fresh => k.whereabouts = .away ∧ k.schema = home
  | retired => k.whereabouts = .retired
  | under => k.whereabouts = .retired ∧ k.schema = schema

theorem Grip.Fits.ne_idle {schema home : Option (List Char)} {k : Connection} {grip : Grip}
    (fits : grip.Fits schema home k) : k.whereabouts ≠ .idle := by
  cases grip with
  | fresh => simp [fits.1]
  | retired => simp [show k.whereabouts = .retired from fits]
  | under => simp [fits.1]

/-- A connection that is ready has the schema that was asked for, or is at home. -/
theorem Grip.Fits.schema_eq {schema home : Option (List Char)} {k : Connection}
    (fits : (Grip.ready schema).Fits schema home k) : k.schema = schema.or home := by
  cases schema with
  | none => exact fits.2
  | some name => exact fits.2

namespace Phase

variable {schema : Option (List Char)} {ps ps' : Pools} {h after : Phase} {a : Act} {l : LeaseId}

/-- The connection in hand is as the phase says. -/
def Fits (schema : Option (List Char)) (ps : Pools) : Phase → Prop
  | holding e l grip =>
    ∃ k, ps.connections l = some k ∧ k.pool = e.pool ∧ grip.Fits schema (ps.home k.pool) k
  | _ => True

theorem Fits.inUse (fits : h.Fits schema ps) (held : h.lease? = some l) : ∃ k, ps.InUse l k := by
  cases h with
  | holding e l' grip =>
    cases held
    obtain ⟨k, known, -, fits⟩ := fits
    exact ⟨k, known, fits.ne_idle⟩
  | _ => cases held

/-- A step on another connection changes nothing. -/
theorem Fits.aside (fits : h.Fits schema ps) (evolves : ps.Evolves a ps')
    (other : ∀ l, h.lease? = some l → a.connection? ≠ some l) : h.Fits schema ps' := by
  cases h with
  | holding e l grip =>
    obtain ⟨k, known, pool, fits⟩ := fits
    refine ⟨k, evolves.kept l k (other l rfl) ⟨known, fits.ne_idle⟩, pool, ?_⟩
    rw [evolves.home_eq known]
    exact fits
  | _ => trivial

/-- A call holds what it held before, or what it just took. -/
theorem Goes.lease? (goes : h.Goes schema a after) (held : after.lease? = some l) :
    h.lease? = some l ∨ ∃ pool, a = ⟨.lease pool, .ok l⟩ := by
  cases goes with
  | leases =>
    cases held
    exact .inr ⟨_, rfl⟩
  | logs | lists | switches | retires | uses | unused | fetches => exact .inl held
  | routes | unrouted | unleased | releases => cases held

/-- A call does its steps on the connection it holds. -/
theorem Goes.connection? (goes : h.Goes schema a after) (on : a.connection? = some l) :
    h.lease? = some l ∨ ∃ pool, a = ⟨.lease pool, .ok l⟩ := by
  cases goes with
  | leases =>
    cases on
    exact .inr ⟨_, rfl⟩
  | retires | uses | unused | fetches | releases => exact .inl on
  | unleased failed => cases (Act.connection?_of_failed failed).symm.trans on
  | logs | lists | switches | routes | unrouted => cases on

/-- Each step of a call leaves its connection as its next phase says. -/
theorem Fits.goes (fits : h.Fits schema ps) (goes : h.Goes schema a after) (atHome : ps.AtHome)
    (evolves : ps.Evolves a ps') : after.Fits schema ps' := by
  cases goes with
  | logs => exact fits.aside evolves nofun
  | lists | switches | routes | unrouted | unleased | releases => trivial
  | @leases e l =>
    obtain ⟨schema, known, idle | ⟨-, home⟩⟩ := evolves.leased e.pool l rfl
    · refine ⟨_, known, rfl, rfl, ?_⟩
      rw [atHome l _ idle rfl]
      exact (evolves.home_eq idle).symm
    · exact ⟨_, known, rfl, rfl, home⟩
  | @retires e l r =>
    obtain ⟨k, known, pool, fits⟩ := fits
    exact ⟨_, evolves.retired l r k rfl ⟨known, fits.ne_idle⟩, pool, rfl⟩
  | @uses e l name quoted asked isQuoted =>
    obtain ⟨k, known, pool, fits⟩ := fits
    obtain ⟨now, changed, used⟩ := evolves.executed l _ _ k rfl ⟨known, fits.ne_idle⟩
    exact ⟨_, changed, pool, fits, (used name quoted isQuoted rfl rfl).trans asked.symm⟩
  | @unused e l name quoted r =>
    obtain ⟨k, known, pool, fits⟩ := fits
    obtain ⟨now, changed, -⟩ := evolves.executed l _ r k rfl ⟨known, fits.ne_idle⟩
    exact ⟨_, changed, pool, fits⟩
  | @fetches e l sql r fetched =>
    obtain ⟨k, known, pool, fits⟩ := fits
    obtain ⟨now, changed, stays⟩ := evolves.fetched l sql r k rfl ⟨known, fits.ne_idle⟩
    obtain rfl := stays (not_maySwitch_of_fetched fetched)
    refine ⟨k, changed, pool, ?_⟩
    rw [evolves.home_eq known]
    exact fits

/-- A connection that a call gives back, and that is idle then, is at home. -/
theorem Fits.atHome (fits : h.Fits schema ps) (goes : h.Goes schema a after) (atHome : ps.AtHome)
    (evolves : ps.Evolves a ps') : ps'.AtHome := by
  refine evolves.atHome atHome fun l k on known idle => ?_
  have goes' := fits.goes goes atHome evolves
  cases goes with
  | @releases e l' grip r =>
    cases on
    obtain ⟨before, was, -, fits⟩ := fits
    obtain ⟨away, pool, schema⟩ := evolves.released l r before rfl ⟨was, fits.ne_idle⟩ k known idle
    cases grip with
    | fresh => rw [schema, pool, evolves.home_eq was, fits.2]
    | retired => cases away.symm.trans fits
    | under => cases away.symm.trans fits.1
  | leases | retires | uses | unused | fetches =>
    cases on
    obtain ⟨k', known', inUse⟩ := goes'.inUse rfl
    rw [known] at known'
    cases known'
    exact absurd idle inUse
  | unleased failed => cases (Act.connection?_of_failed failed).symm.trans on
  | logs | lists | switches | routes | unrouted => cases on

/-- A step of a call that goes on as its phases say, or that needs no
connection. -/
inductive Strides (schema : Option (List Char)) (h : Phase) (a : Act) : Phase → Prop
  | goes {after : Phase} : h.Goes schema a after → Strides schema h a after
  | stays : a.connection? = none → Strides schema h a h
  | told {e} : a.connection? = none → Strides schema h a (routed e)

theorem Strides.lease? (strides : h.Strides schema a after) (held : after.lease? = some l) :
    h.lease? = some l ∨ ∃ pool, a = ⟨.lease pool, .ok l⟩ := by
  cases strides with
  | goes goes => exact goes.lease? held
  | stays => exact .inl held
  | told => cases held

theorem Strides.connection? (strides : h.Strides schema a after) (on : a.connection? = some l) :
    h.lease? = some l ∨ ∃ pool, a = ⟨.lease pool, .ok l⟩ := by
  cases strides with
  | goes goes => exact goes.connection? on
  | stays none | told none => cases none.symm.trans on

theorem Fits.strides (fits : h.Fits schema ps) (strides : h.Strides schema a after)
    (atHome : ps.AtHome) (evolves : ps.Evolves a ps') : ps'.AtHome ∧ after.Fits schema ps' := by
  cases strides with
  | goes goes => exact ⟨fits.atHome goes atHome evolves, fits.goes goes atHome evolves⟩
  | stays none =>
    exact ⟨evolves.atHome atHome (by simp [none]), fits.aside evolves (by simp [none])⟩
  | told none => exact ⟨evolves.atHome atHome (by simp [none]), trivial⟩

end Phase

/-! ## All calls -/

namespace Concurrent

/-- The schema that a call asks for. -/
def Call.schema? : Call → Option (List Char)
  | tool c => c.schema?
  | _ => none

/-- How far a task got. -/
def Machine.phase {env : Environment} (m : Machine env) (i : Nat) : Phase :=
  (m.actsOf i).foldl Phase.next .idle

theorem Call.after_phases (c : Call) (acts : List Act) :
    c.phases.after .idle acts = acts.foldl Phase.next .idle := by
  cases c <;> rfl

theorem Call.strides_of_allows {c : Call} {h : Phase} {s : Step} (allowed : c.phases.allows h s)
    (r : s.Result) : h.Strides c.schema? ⟨s, r⟩ (h.next ⟨s, r⟩) := by
  cases c with
  | tool c => exact .goes (Phase.goes allowed r)
  | _ =>
    have unconnected : s.IsUnconnected := allowed
    cases s with
    | active => cases h <;> cases r <;> first | exact .stays rfl | exact .told rfl
    | lease | retire | execute | fetch | release => exact unconnected.elim
    | _ => cases h <;> exact .stays rfl

namespace Machine

variable {env : Environment} {m : Machine env} {i : Nat} {call : Call} {s : Step}
  {next : s.Result → Program call.Result}

theorem phase_perform :
    (m.perform i call s next).phase i = (m.phase i).next ⟨s, (env.answer s m.state).1⟩ := by
  simp [phase]

theorem phase_perform_ne {j : Nat} (h : i ≠ j) :
    (m.perform i call s next).phase j = m.phase j := by
  rw [phase, actsOf_perform_ne h, phase]

/-- Idle connections are at home, and each call holds one of its own. -/
structure Tidy (view : env.State → Pools) (m : Machine env) : Prop where
  atHome : (view m.state).AtHome
  fits : ∀ i t, m.tasks[i]? = some t → (m.phase i).Fits t.call.schema? (view m.state)
  apart : ∀ i j l, i ≠ j → (m.phase i).lease? = some l → (m.phase j).lease? ≠ some l
  /-- What has not come in yet holds none. -/
  idle : ∀ i, m.tasks.length ≤ i → m.phase i = .idle

namespace Tidy

variable {view : env.State → Pools}

theorem inUse (tidy : m.Tidy view) {l : LeaseId} (held : (m.phase i).lease? = some l) :
    ∃ k, (view m.state).InUse l k := by
  by_cases known : i < m.tasks.length
  · exact (tidy.fits i _ (List.getElem?_eq_getElem known)).inUse held
  · rw [tidy.idle i (by omega)] at held
    cases held

theorem start (tidy : m.Tidy view) (x : Executor) (call : Call) : (m.start x call).Tidy view where
  atHome := tidy.atHome
  fits j t ht := by
    obtain old | ⟨rfl, rfl⟩ := Machine.task_of_start ht
    · exact tidy.fits j t old
    · change (m.phase m.tasks.length).Fits _ _
      rw [tidy.idle _ (Nat.le_refl _)]
      trivial
  apart := tidy.apart
  idle j new := by
    refine tidy.idle j ?_
    simp only [Machine.start, List.length_append, List.length_singleton] at new
    omega

/-- A step of one call leaves the connections of the others alone. -/
theorem perform (tidy : m.Tidy view) (found : m.tasks[i]? = some ⟨call, .step s next⟩)
    (strides : (m.phase i).Strides call.schema? ⟨s, (env.answer s m.state).1⟩
      ((m.phase i).next ⟨s, (env.answer s m.state).1⟩))
    (evolves : (view m.state).Evolves ⟨s, (env.answer s m.state).1⟩
      (view (env.answer s m.state).2)) : (m.perform i call s next).Tidy view := by
  obtain ⟨atHome, fits⟩ := (tidy.fits i _ found).strides strides tidy.atHome evolves
  -- What a call has or takes in this step, no other call holds.
  have apart {j : Nat} {l : LeaseId} (other : i ≠ j)
      (own : (m.phase i).lease? = some l ∨
        ∃ pool, (⟨s, (env.answer s m.state).1⟩ : Act) = ⟨.lease pool, .ok l⟩) :
      (m.phase j).lease? ≠ some l := by
    intro held
    obtain before | ⟨pool, taken⟩ := own
    · exact tidy.apart i j l other before held
    · obtain ⟨k, used⟩ := tidy.inUse held
      exact evolves.not_inUse_of_leased taken used
  refine ⟨atHome, fun j t ht => ?_, fun j j' l distinct held held' => ?_, fun j new => ?_⟩
  · obtain ⟨other, known⟩ | ⟨rfl, rfl⟩ := Machine.task_of_perform ht
    · rw [phase_perform_ne other]
      exact (tidy.fits j t known).aside evolves fun l held on =>
        apart other (strides.connection? on) held
    · rw [phase_perform]
      exact fits
  · by_cases first : i = j
    · subst first
      rw [phase_perform] at held
      rw [phase_perform_ne distinct] at held'
      exact apart distinct (strides.lease? held) held'
    · rw [phase_perform_ne first] at held
      by_cases second : i = j'
      · subst second
        rw [phase_perform] at held'
        exact apart first (strides.lease? held') held
      · rw [phase_perform_ne second] at held'
        exact tidy.apart j j' l distinct held held'
  · have far : m.tasks.length ≤ j := by simpa [Machine.perform] using new
    have other : i ≠ j := by
      have := (List.getElem?_eq_some_iff.1 found).1
      omega
    rw [phase_perform_ne other, tidy.idle j far]

end Tidy

end Machine

end Concurrent

namespace Environment

variable (env : Environment) {x : Executor} {w : env.State} {view : env.State → Pools}

theorem strides_task (moves : List Move) {i : Nat} {call : Call} {s : Step}
    {next : s.Result → Program call.Result}
    (found : (env.interleave x w moves).tasks[i]? = some ⟨call, .step s next⟩) (r : s.Result) :
    let h := (env.interleave x w moves).phase i
    h.Strides call.schema? ⟨s, r⟩ (h.next ⟨s, r⟩) := by
  have allowed := (env.keeps_task (Call.keeps_phases x) moves found).2.1
  rw [Call.after_phases] at allowed
  exact Call.strides_of_allows allowed r

/-- Where pools do as `Evolves` says, every schedule leaves them tidy. -/
theorem tidy (atHome : (view w).AtHome) (moves : List Move)
    (lawful : ∀ h ∈ (env.interleave x w moves).history,
      (view h.before).Evolves h.act (view h.after)) :
    (env.interleave x w moves).Tidy view := by
  refine env.reached_invariant (P := fun m =>
    (∀ h ∈ m.history, (view h.before).Evolves h.act (view h.after)) → m.Tidy view)
    (fun _ => ⟨atHome, by simp, by simp [Machine.phase, Machine.actsOf, Phase.lease?], ?_⟩)
    (fun moves call old lawful => (old lawful).start x call)
    (fun moves i call s next found old lawful => ?_) moves lawful
  · simp [Machine.phase, Machine.actsOf]
  · obtain ⟨earlier, now⟩ := List.forall_mem_append.1 lawful
    exact (old earlier).perform found (env.strides_task moves found _) (now _ List.mem_cons_self)

end Environment

end QueryGate
