import Mathlib.Data.Multiset.AddSub
import QueryGate.Proofs.Alone
import QueryGate.Proofs.Concurrent.Handing
import QueryGate.Proofs.Configured
import QueryGate.Server.Session
/-!
# Starting up

A server that starts has all of its connections, in the order in which they are
given and with the first of them active, before a transport does anything. One
that does not start has none: it leaves no pool open and no transport is begun.
`Environment.start_whole` says so, and what a start can fail of.
-/

namespace QueryGate

open Program (Ensures ensures_log ensures_each)
open Concurrent (opened opened_append)

/-! ## What is open, and what gets in the way -/

namespace Act

/-- The pools that are open after an act. -/
def openAfter (pools : Multiset PoolId) : Act → Multiset PoolId
  | ⟨.openPool .., p⟩ => p ::ₘ pools
  | ⟨.closePool p, _⟩ => pools.erase p
  | _ => pools

/-- No name is found taken, and no connection is refused. -/
def Unopposed : Act → Prop
  | ⟨.isTaken _, taken⟩ => taken = false
  | ⟨.insert _, r⟩ => r = .ok ()
  | _ => True

/-- What a transport tells of itself. -/
def OfTransport : Act → Prop
  | ⟨.log e, _⟩ => e.area ∈ [.transport, .stdio, .http]
  | _ => False

end Act

/-- The pools that are open after what was done. -/
def openAfter (pools : Multiset PoolId) (acts : List Act) : Multiset PoolId :=
  acts.foldl Act.openAfter pools

theorem openAfter_append (pools : Multiset PoolId) (acts more : List Act) :
    openAfter pools (acts ++ more) = openAfter (openAfter pools acts) more := List.foldl_append

/-- What was done made these pools and changed which ones are open; nothing got
in its way, and no transport had a part in it. -/
structure Effects (acts : List Act) (made : List PoolId) (before after : Multiset PoolId) :
    Prop where
  made : opened acts = made
  left : openAfter before acts = after
  unopposed : ∀ a ∈ acts, a.Unopposed
  early : ∀ a ∈ acts, ¬ a.OfTransport

namespace Effects

variable {acts more : List Act} {made made' : List PoolId}
  {pools before between after : Multiset PoolId}

theorem nil : Effects [] [] pools pools := ⟨rfl, rfl, by simp, by simp⟩

theorem append (first : Effects acts made before between)
    (next : Effects more made' between after) :
    Effects (acts ++ more) (made ++ made') before after := by
  refine ⟨?_, ?_, fun a ha => ?_, fun a ha => ?_⟩
  · rw [opened_append, first.made, next.made]
  · rw [openAfter_append, first.left, next.left]
  · exact (List.mem_append.1 ha).elim (first.unopposed a) (next.unopposed a)
  · exact (List.mem_append.1 ha).elim (first.early a) (next.early a)

/-- One act and what it does to the pools. -/
theorem one {a : Act} (hm : a.opened?.toList = made) (hl : a.openAfter before = after)
    (free : a.Unopposed) (early : ¬ a.OfTransport) : Effects [a] made before after := by
  refine ⟨?_, hl, by simpa using free, by simpa using early⟩
  rw [← hm, opened]
  cases h : a.opened? <;> simp [h]

theorem log (e : Log.Event) (h : e.area ∉ [.transport, .stdio, .http]) :
    Effects [⟨.log e, ()⟩] [] pools pools := one rfl rfl trivial h

theorem free (name : List Char) : Effects [⟨.isTaken name, false⟩] [] pools pools :=
  one rfl rfl rfl id

theorem inserted (e : Entry) : Effects [⟨.insert e, .ok ()⟩] [] pools pools :=
  one rfl rfl rfl id

theorem asked (pool : PoolId) (answer : Answer Unit) :
    Effects [⟨.ping pool, answer⟩] [] pools pools :=
  one rfl rfl trivial id

theorem listed (summaries : List ConnectionSummary) :
    Effects [⟨.summaries, summaries⟩] [] pools pools :=
  one rfl rfl trivial id

theorem made_pool (options : Dsn.Options) (limits : PoolOptions) (pool : PoolId) :
    Effects [⟨.openPool options limits, pool⟩] [pool] pools (pool ::ₘ pools) :=
  one rfl rfl trivial id

theorem closed_pool (pool : PoolId) : Effects [⟨.closePool pool, ()⟩] [] (pool ::ₘ pools) pools :=
  one rfl (Multiset.erase_cons_head pool pools) trivial id

theorem emptied (entries : Option (List Entry)) : Effects [⟨.close, entries⟩] [] pools pools :=
  one rfl rfl trivial id

end Effects

/-! ## Adding a connection -/

namespace Registry

/-- An open registry with these entries, where none was switched to. -/
def holding (entries : List Entry) : Registry :=
  ⟨entries, entries.head?.map (·.config.name), false⟩

def shut : Registry := ⟨[], none, true⟩

theorem contains_holding {entries : List Entry} {name : List Char}
    (new : name ∉ entries.map (·.config.name)) : (holding entries).contains name = false :=
  Bool.eq_false_iff.2 fun known => new (contains_iff.1 known)

theorem insert_holding {entries : List Entry} {e : Entry}
    (new : e.config.name ∉ entries.map (·.config.name)) :
    (holding entries).insert e = .ok (holding (entries ++ [e])) := by
  rw [insert, contains_holding new]
  cases entries <;> rfl

variable {config : ConnectionConfig} {entries : List Entry} {r : Registry} {pools : Multiset PoolId}

theorem ensures_makePool (pools : Multiset PoolId) {dsn : Dsn}
    (readable : Dsn.read config.dsn = .ok dsn) :
    (makePool config).Ensures r fun result acts after =>
      after = r ∧ ∃ pool, result = .ok pool ∧ Effects acts [pool] pools (pool ::ₘ pools) := by
  unfold makePool
  rw [readable]
  refine Ensures.bind (P := fun _ acts after => after = r ∧ Effects acts [] pools pools) ?_ ?_
  · refine ensures_each (I := fun _ acts after => after = r ∧ Effects acts [] pools pools)
      (fun param rest acts r' known => ?_) _ [] ⟨rfl, .nil⟩
    exact fun _ => ⟨known.1, known.2.append (.log _ (by simp))⟩
  · rintro _ acts _ ⟨rfl, quiet⟩
    exact fun pool => ⟨rfl, pool, rfl, quiet.append (.made_pool ..)⟩

theorem ensures_addPool (pools : Multiset PoolId)
    (new : config.name ∉ entries.map (·.config.name)) (pool : PoolId) :
    (addPool config pool).Ensures (holding entries) fun result acts after =>
      result = .ok () ∧ after = holding (entries ++ [⟨config, pool⟩]) ∧
        Effects acts [] pools pools := by
  have inserted := insert_holding (e := ⟨config, pool⟩) new
  unfold addPool
  change Ensures (.step _ _) _ _
  rw [Ensures]
  simp only [respond?, inserted]
  exact fun _ => ⟨rfl, rfl, (Effects.inserted _).append (.log _ (by simp))⟩

/-- A connection that was added, or the answer to a ping that kept it out. -/
inductive Adds (config : ConnectionConfig) (entries : List Entry) (pools : Multiset PoolId) :
    Except Error Unit → List Act → Registry → Prop where
  | added {pool : PoolId} {acts : List Act} : Effects acts [pool] pools (pool ::ₘ pools) →
      Adds config entries pools (.ok ()) acts (holding (entries ++ [⟨config, pool⟩]))
  | unreached {pool : PoolId} {acts : List Act} {answer : Answer Unit} {e : Error} :
      Effects acts [pool] pools pools → ⟨.ping pool, answer⟩ ∈ acts →
      pingError config.pool.options.acquireTimeout answer = some e →
      Adds config entries pools (.error e) acts (holding entries)

theorem ensures_add (pools : Multiset PoolId) {dsn : Dsn}
    (readable : Dsn.read config.dsn = .ok dsn)
    (new : config.name ∉ entries.map (·.config.name)) :
    (add config).Ensures (holding entries) (Adds config entries pools) := by
  unfold add
  change Ensures (.step _ _) _ _
  rw [Ensures]
  simp only [respond?, contains_holding new]
  refine ensures_log.2 ((ensures_makePool pools readable).andThen ?_ ?_)
  · rintro e acts after ⟨-, pool, none, -⟩
    cases none
  · rintro pool' acts _ ⟨rfl, pool, made, effects⟩
    obtain rfl : pool' = pool := Except.ok.inj made
    refine fun answer => ?_
    have asked := effects.append (.asked pool' answer)
    dsimp only [Program.bind_done]
    cases hp : pingError config.pool.options.acquireTimeout answer with
    | some e =>
      refine fun _ => @Adds.unreached _ _ _ pool' _ answer _ ?_ (by simp) hp
      simpa using (Effects.free config.name).append
        ((Effects.log _ (by simp)).append (asked.append (.closed_pool pool')))
    | none =>
      refine (ensures_addPool (pool' ::ₘ pools) new pool').mono ?_
      rintro _ more _ ⟨rfl, rfl, quiet⟩
      refine .added ?_
      simpa using (Effects.free config.name).append
        ((Effects.log _ (by simp)).append (asked.append quiet))

/-! ## Adding several -/

/-- The connections that were added, all of them or those before one that was
not reached. -/
inductive AddsEach (configs : List ConnectionConfig) (entries : List Entry)
    (pools : Multiset PoolId) : Except Error Unit → List Act → Registry → Prop where
  | added {more : List Entry} {acts : List Act} : configs = more.map Entry.config →
      Effects acts (more.map Entry.pool) pools (more.map Entry.pool + pools) →
      AddsEach configs entries pools (.ok ()) acts (holding (entries ++ more))
  | unreached {more : List Entry} {config : ConnectionConfig} {rest : List ConnectionConfig}
      {pool : PoolId} {acts : List Act} {answer : Answer Unit} {e : Error} :
      configs = more.map Entry.config ++ config :: rest →
      Effects acts (more.map Entry.pool ++ [pool]) pools (more.map Entry.pool + pools) →
      ⟨.ping pool, answer⟩ ∈ acts →
      pingError config.pool.options.acquireTimeout answer = some e →
      AddsEach configs entries pools (.error e) acts (holding (entries ++ more))

theorem ensures_openEach (entries : List Entry) (pools : Multiset PoolId)
    {configs : List ConnectionConfig}
    (readable : ∀ config ∈ configs, ∃ dsn, Dsn.read config.dsn = .ok dsn)
    (distinct : (entries.map (·.config.name) ++ configs.map (·.name)).Nodup) :
    (Server.openEach configs).Ensures (holding entries) (AddsEach configs entries pools) := by
  induction configs generalizing entries pools with
  | nil =>
    have none : AddsEach [] entries pools (.ok ()) [] (holding (entries ++ [])) :=
      .added rfl (by simpa using Effects.nil)
    rwa [List.append_nil] at none
  | cons config configs ih =>
    obtain ⟨⟨dsn, first⟩, others⟩ := List.forall_mem_cons.1 readable
    have new : config.name ∉ entries.map (·.config.name) := by
      rw [List.map_cons, List.nodup_middle, List.nodup_cons] at distinct
      exact fun known => distinct.1 (List.mem_append_left _ known)
    refine (ensures_add pools first new).andThen ?_ ?_
    · intro e acts after known
      cases known with
      | unreached effects asked unanswered =>
        have upTo : AddsEach (config :: configs) entries pools (.error e) acts
            (holding (entries ++ [])) :=
          .unreached rfl (by simpa using effects) asked unanswered
        rwa [List.append_nil] at upTo
    · intro _ acts after known
      cases known with
      | @added pool _ effects =>
        have distinct' : ((entries ++ [(⟨config, pool⟩ : Entry)]).map (·.config.name) ++
            configs.map (·.name)).Nodup := by
          simpa using distinct
        have joined (more : List Entry) : (more.map Entry.pool : Multiset PoolId) + pool ::ₘ pools =
            ((⟨config, pool⟩ :: more : List Entry).map Entry.pool : Multiset PoolId) + pools := by
          rw [Multiset.add_cons, ← Multiset.cons_add]
          rfl
        refine (ih _ (pool ::ₘ pools) others distinct').mono ?_
        intro result rest after known
        cases known with
        | added same later =>
          rw [List.append_assoc]
          refine @AddsEach.added _ _ _ (⟨config, pool⟩ :: _) _ (by rw [same]; rfl) ?_
          exact joined _ ▸ effects.append later
        | unreached same later asked unanswered =>
          rw [List.append_assoc]
          refine @AddsEach.unreached _ _ _ (⟨config, pool⟩ :: _) _ _ _ _ _ _ (by rw [same]; rfl) ?_
            (List.mem_append_right _ asked) unanswered
          exact joined _ ▸ effects.append later

/-! ## Closing -/

/-- Closing all of the registry closes just the pools it holds. -/
theorem ensures_closeAll : closeAll.Ensures (holding entries) fun _ acts after =>
    after = shut ∧ Effects acts [] (entries.map Entry.pool) 0 := by
  unfold closeAll
  change Ensures (.step _ _) _ _
  rw [Ensures]
  simp only [respond?, close, holding]
  refine (ensures_each (r := shut) (I := fun rest acts after =>
      after = shut ∧ Effects acts [] (entries.map Entry.pool) (rest.map Entry.pool))
    (fun e rest acts r known => ?_) entries [⟨.close, some entries⟩] ?_).bind ?_
  · obtain ⟨rfl, effects⟩ := known
    intro _ _
    have closes := @Effects.closed_pool (rest.map Entry.pool) e.pool
    exact ⟨rfl, effects.append (closes.append (.log _ (by simp)))⟩
  · exact ⟨rfl, .emptied _⟩
  · rintro _ acts _ ⟨rfl, effects⟩
    exact fun _ => ⟨rfl, effects.append (.log _ (by simp))⟩

end Registry

/-! ## What is configured -/

namespace SharedSettings

/-- Configurations as they are accepted behind others with the given names: one
for each text, each with a connection text that can be read, and under names
that are all different. -/
structure Accepted (names : List (List Char)) (texts : List (List Char))
    (configs : List ConnectionConfig) : Prop where
  length : configs.length = texts.length
  readable : ∀ config ∈ configs, ∃ dsn, Dsn.read config.dsn = .ok dsn
  new : ∀ config ∈ configs, config.name ∉ names
  distinct : (configs.map (·.name)).Nodup

theorem accepted_of_configureAfter {s : SharedSettings} {names texts : List (List Char)}
    {configs : List ConnectionConfig} (h : s.configureAfter names texts = .ok configs) :
    Accepted names texts configs := by
  obtain ⟨configured, distinct, new⟩ := configureAfter_eq_ok_iff.1 h
  refine ⟨configured.length_eq.symm, fun config hc => ?_, new, distinct⟩
  obtain ⟨text, -, made⟩ := exists_of_forall₂ configured hc
  exact made.readable

end SharedSettings

namespace Server

open Registry (holding shut ensures_openEach ensures_closeAll pingError)

/-! ## Opening all -/

/-- All connections are there, or none is. -/
inductive Opens (configs : List ConnectionConfig) :
    Except Error Unit → List Act → Registry → Prop where
  | ready {entries : List Entry} {acts : List Act} : configs = entries.map Entry.config →
      Effects acts (entries.map Entry.pool) 0 (entries.map Entry.pool) →
      Opens configs (.ok ()) acts (holding entries)
  | abandoned {entries : List Entry} {config : ConnectionConfig} {rest : List ConnectionConfig}
      {pool : PoolId} {acts : List Act} {answer : Answer Unit} {e : Error} :
      configs = entries.map Entry.config ++ config :: rest →
      Effects acts (entries.map Entry.pool ++ [pool]) 0 0 →
      ⟨.ping pool, answer⟩ ∈ acts →
      pingError config.pool.options.acquireTimeout answer = some e →
      Opens configs (.error e) acts shut

theorem ensures_openAll {configs : List ConnectionConfig}
    (readable : ∀ config ∈ configs, ∃ dsn, Dsn.read config.dsn = .ok dsn)
    (distinct : (configs.map (·.name)).Nodup) :
    (openAll configs).Ensures .empty (Opens configs) := by
  unfold openAll
  refine (ensures_openEach [] 0 readable distinct).bind ?_
  intro result acts after known
  cases known with
  | @added entries _ same effects =>
    rw [Multiset.add_zero] at effects
    refine fun _ => .ready same ?_
    simpa using effects.append ((Effects.listed _).append (.log _ (by simp)))
  | @unreached entries config rest pool _ answer e same effects asked unanswered =>
    rw [Multiset.add_zero] at effects
    refine ensures_log.2 (ensures_closeAll.bind ?_)
    rintro _ more _ ⟨rfl, closes⟩
    refine .abandoned same ?_ (List.mem_append_left _ asked) unanswered
    simpa using effects.append ((Effects.log _ (by simp)).append closes)

/-! ## The start of a session -/

/-- A session up to its transport. -/
def opening (s : Settings) : Program (Except Ending Unit) := do
  if s.connections.isEmpty then return .error .unconfigured
  Program.log .info .server [("transport", .text s.transport.text)]
    ("Starting MySQL MCP Server v" ++ version)
  match s.configs with
  | .error fault => return .error (.misconfigured fault)
  | .ok configs =>
    if s.shared.allowWritable then Program.log .warn .server [] writableWarning
    return (← openAll configs).mapError .unopened

/-- A session from its transport on. -/
def service (s : Settings) (v : Visit) : Program Ending := do
  let served ← serve s v
  match served.result with
  | .error e => Program.log .error .server [("error", .text e.message)] "Server error"
  | .ok () =>
    if !endsAbruptly s v then Program.log .info .server [] "Server shutdown complete"
  return .served served

theorem session_eq (s : Settings) (v : Visit) :
    session s v = (opening s).bind fun start =>
      match start with
      | .error ending => .done ending
      | .ok () => service s v := by
  unfold session opening
  by_cases none : s.connections.isEmpty
  · rw [if_pos none, if_pos none]
    rfl
  rw [if_neg none, if_neg none]
  cases s.configs with
  | error fault => rfl
  | ok configs =>
    refine congrArg (Program.step _) (funext fun _ => ?_)
    cases s.shared.allowWritable
    case' true => refine congrArg (Program.step _) (funext fun _ => ?_)
    all_goals
      change (openAll configs).bind _ = ((openAll configs).bind _).bind _
      rw [Program.bind_assoc]
      congr 1
      funext r
      cases r <;> rfl

/-- How a start comes out: with all connections in the registry, in the order in
which they are given and the first of them active; or with no pool open. -/
inductive Starts (s : Settings) : Except Ending Unit → List Act → Registry → Prop where
  | ready {entries : List Entry} {acts : List Act} :
      s.configs = .ok (entries.map Entry.config) → entries ≠ [] →
      Effects acts (entries.map Entry.pool) 0 (entries.map Entry.pool) →
      Starts s (.ok ()) acts (holding entries)
  | unconfigured : s.connections = [] → Starts s (.error .unconfigured) [] .empty
  | misconfigured {fault : ConnectionFault} {acts : List Act} : s.configs = .error fault →
      Effects acts [] 0 0 → Starts s (.error (.misconfigured fault)) acts .empty
  /-- A pool that was made is not reached; it and those before it are closed. -/
  | unopened {entries : List Entry} {config : ConnectionConfig} {rest : List ConnectionConfig}
      {pool : PoolId} {acts : List Act} {answer : Answer Unit} {e : Error} :
      s.configs = .ok (entries.map Entry.config ++ config :: rest) →
      Effects acts (entries.map Entry.pool ++ [pool]) 0 0 →
      ⟨.ping pool, answer⟩ ∈ acts →
      pingError config.pool.options.acquireTimeout answer = some e →
      Starts s (.error (.unopened e)) acts shut

theorem starts_of_opens {s : Settings} {configs : List ConnectionConfig} {before acts : List Act}
    {result : Except Error Unit} {after : Registry} (hc : s.configs = .ok configs)
    (some : configs ≠ []) (quiet : Effects before [] 0 0) (h : Opens configs result acts after) :
    Starts s (result.mapError .unopened) (before ++ acts) after := by
  cases h with
  | ready same effects =>
    subst same
    exact .ready hc (by simpa using some) (quiet.append effects)
  | abandoned same effects asked unanswered =>
    subst same
    exact .unopened hc (quiet.append effects) (List.mem_append_right _ asked) unanswered

theorem ensures_opening (s : Settings) : (opening s).Ensures .empty (Starts s) := by
  unfold opening
  by_cases none : s.connections.isEmpty
  · rw [if_pos none]
    exact .unconfigured (List.isEmpty_iff.1 none)
  rw [if_neg none]
  refine ensures_log.2 ?_
  cases hc : s.configs with
  | error fault => exact .misconfigured hc (.log _ (by simp))
  | ok configs =>
    have accepted := SharedSettings.accepted_of_configureAfter hc
    have opens := ensures_openAll accepted.readable accepted.distinct
    have some : configs ≠ [] := by
      rintro rfl
      exact none (List.isEmpty_iff_length_eq_zero.2 accepted.length.symm)
    have rest {before : List Act} (quiet : Effects before [] 0 0) :
        ((openAll configs).bind fun r => .done (r.mapError .unopened)).Ensures .empty
          fun start acts after => Starts s start (before ++ acts) after := by
      refine opens.bind fun result acts after known => ?_
      change Starts s _ (before ++ (acts ++ [])) after
      rw [List.append_nil]
      exact starts_of_opens hc some quiet known
    have told (e : Log.Event) (h : e.area ∉ [.transport, .stdio, .http]) :
        Effects [⟨.log e, ()⟩] [] 0 0 := .log e h
    cases s.shared.allowWritable with
    | false => exact rest (told _ (by simp))
    | true => exact ensures_log.2 (rest ((told _ (by simp)).append (told _ (by simp))))

theorem pingError_ne_duplicate {seconds : Nat} {answer : Answer Unit} {e : Error}
    (h : pingError seconds answer = some e) (name : List Char) :
    e ≠ Registry.duplicateError name := by
  rintro rfl
  cases answer with
  | ok => cases h
  | failed f =>
    have same := (Error.connection.inj (Option.some.inj h)).1
    have first := congrArg (·.toList.head?) same
    simp at first
  | timedOut =>
    have same := (Error.connection.inj (Option.some.inj h)).1
    have first := congrArg (·.toList.head?) same
    simp at first

end Server

namespace Environment

open Server

/-- A server starts whole or not at all. Before its transport it has registered
every connection, or it has closed every pool that it made; then it ends, and
the transport is never begun. Names that are accepted are never found taken. -/
theorem start_whole (env : Environment) {w : env.State} (fresh : env.registry w = .empty)
    (s : Settings) (v : Visit) :
    let start := (opening s).run env.answer w
    let acts := (opening s).trace env.answer w
    Starts s start.1 acts (env.registry start.2) ∧
      (∀ name, start.1 ≠ .error (.unopened (Registry.duplicateError name))) ∧
      (start.1 = .ok () →
        (session s v).trace env.answer w = acts ++ (service s v).trace env.answer start.2 ∧
          (session s v).run env.answer w = (service s v).run env.answer start.2) ∧
      (∀ ending, start.1 = .error ending →
        (session s v).trace env.answer w = acts ∧
          (session s v).run env.answer w = (ending, start.2)) := by
  intro start acts
  have starts : Starts s start.1 acts (env.registry start.2) :=
    env.ensures (fresh ▸ ensures_opening s)
  refine ⟨starts, fun name failed => ?_, fun ready => ?_, fun ending failed => ?_⟩
  · obtain ⟨after, known⟩ : ∃ after,
        Starts s (.error (.unopened (Registry.duplicateError name))) acts after :=
      ⟨_, failed ▸ starts⟩
    cases known with
    | unopened _ _ _ unanswered => exact pingError_ne_duplicate unanswered name rfl
  · rw [session_eq, Program.trace_bind, Program.run_bind, show _ = _ from ready]
    exact ⟨rfl, rfl⟩
  · rw [session_eq, Program.trace_bind, Program.run_bind, show _ = _ from failed]
    exact ⟨List.append_nil _, rfl⟩

/-- Two connections, the second of which no server answers. -/
def halfReached : Settings :=
  { connections := ["a=root@tcp(localhost)/home".toList, "b=root@tcp(elsewhere)/home".toList]
    shared := ⟨[], none, false, ⟨0, 0, 0, 0, 0⟩⟩
    queryTimeout := 0
    maxRows := 0
    transport := .stdio
    httpHost := []
    httpPort := 0
    endpoint := []
    logLevel := []
    jsonLogs := false }

/-- Both pools are closed, the second one first. -/
theorem start_whole_halfReached :
    let start := (opening halfReached).run Scripted.World.environment.answer Concurrent.shop
    let acts := (opening halfReached).trace Scripted.World.environment.answer Concurrent.shop
    opened acts = [0, 1] ∧ acts.filterMap Act.closed? = [1, 0] ∧
      Starts halfReached start.1 acts (Scripted.World.environment.registry start.2) :=
  ⟨by decide +kernel, by decide +kernel,
    (Scripted.World.environment.start_whole (w := Concurrent.shop) rfl halfReached
      ⟨none, none, none⟩).1⟩

end Environment

end QueryGate
