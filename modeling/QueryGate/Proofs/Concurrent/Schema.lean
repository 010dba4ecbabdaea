import QueryGate.Proofs.Concurrent.ScriptedPools
/-!
# Default schemas never leak

A call that asks for a schema takes its connection out of the pool for good
before it switches. So whatever a schedule interrupts, and whatever fails, idle
connections are at home, and each statement runs under the schema its call asked
for, or at home.
-/

namespace QueryGate

open Sql.Identifier (Quoted)
open Concurrent

namespace Phase

variable {schema : Option (List Char)} {h after : Phase} {l : LeaseId} {sql : List Char}

theorem Strides.of_fetch {r : Answer Stream} (strides : h.Strides schema ⟨.fetch l sql, r⟩ after) :
    ∃ e, h = holding e l (.ready schema) := by
  cases strides with
  | goes goes =>
    cases goes with
    | @fetches e => exact ⟨e, rfl⟩
  | stays none | told none => cases none

theorem Strides.of_execute {r : Answer Unit} (strides : h.Strides schema ⟨.execute l sql, r⟩ after) :
    ∃ e name quoted, h = holding e l .retired ∧ schema = some name ∧ Quoted name quoted ∧
      sql = "USE ".toList ++ quoted := by
  cases strides with
  | goes goes =>
    cases goes with
    | uses asked isQuoted => exact ⟨_, _, _, rfl, asked, isQuoted, rfl⟩
    | unused asked isQuoted => exact ⟨_, _, _, rfl, asked, isQuoted, rfl⟩
  | stays none | told none => cases none

end Phase

namespace Environment

variable (env : Environment) {w : env.State}

/-- Where pools do as `Evolves` says, idle connections keep the schema of their
DSN, however calls get between the steps of each other and whatever these come
to. Statements run under the schema that the call asked for, or that of the DSN;
anything else that is sent is the `USE` of that schema, on a connection that
will not go back. -/
theorem schema_kept (x : Executor) (view : env.State → Pools) (atHome : (view w).AtHome)
    (moves : List Move)
    (lawful : ∀ h ∈ (env.interleave x w moves).history,
      (view h.before).Evolves h.act (view h.after)) :
    let m := env.interleave x w moves
    (view m.state).AtHome ∧
      ∀ h ∈ m.history, ∀ call left, m.tasks[h.task]? = some ⟨call, left⟩ →
        (∀ l sql r, h.act = ⟨.fetch l sql, r⟩ → ∃ k, (view h.before).InUse l k ∧
          k.schema = call.schema?.or ((view h.before).home k.pool)) ∧
        ∀ l sql r, h.act = ⟨.execute l sql, r⟩ → ∃ k name quoted, (view h.before).InUse l k ∧
          k.whereabouts = .retired ∧ call.schema? = some name ∧ Quoted name quoted ∧
          sql = "USE ".toList ++ quoted := by
  refine ⟨(env.tidy atHome moves lawful).atHome, fun h hm call left task => ?_⟩
  obtain ⟨past, call', s, next, left', found, act, before, earlier, now⟩ :=
    env.moment_reached moves h hm
  obtain rfl : call' = call := (Task.mk.inj (Option.some.inj (now.symm.trans task))).1
  -- The schedule up to here left its connection as its phase says.
  have tidy := env.tidy atHome past fun h hm => lawful h (earlier hm)
  have strides := env.strides_task past found (env.answer s (env.interleave x w past).state).1
  have fits := tidy.fits h.task _ found
  rw [← act] at strides
  rw [← before] at fits
  refine ⟨fun l sql r isFetch => ?_, fun l sql r isExecute => ?_⟩
  · rw [isFetch] at strides
    obtain ⟨e, phase⟩ := strides.of_fetch
    rw [phase] at fits
    obtain ⟨k, known, -, fits⟩ := fits
    exact ⟨k, ⟨known, fits.ne_idle⟩, fits.schema_eq⟩
  · rw [isExecute] at strides
    obtain ⟨e, name, quoted, phase, asked, isQuoted, same⟩ := strides.of_execute
    rw [phase] at fits
    obtain ⟨k, known, -, fits⟩ := fits
    exact ⟨k, name, quoted, ⟨known, fits.ne_idle⟩, fits, asked, isQuoted, same⟩

/-- Three queries on one pool, two of them at once: one asks for a schema, one
for none, and one for a blank one. -/
def askedBesides : List Move :=
  List.flatten
    [[.start (.add (shopConfig "main"))], List.replicate 6 (.advance 0),
     [.start (.tool (.runQuery ⟨"SELECT 1".toList, some " other ".toList, none, .json⟩)),
      .start (.tool (.runQuery ⟨"SELECT 1".toList, none, none, .json⟩)),
      .start (.tool (.runQuery ⟨"SELECT 1".toList, some " ".toList, none, .json⟩))],
     (List.replicate 10 [.advance 1, .advance 2]).flatten, List.replicate 10 (.advance 3)]

/-- The first one uses up its connection; the other two are sent at home. -/
theorem schema_kept_askedBesides :
    let m := Scripted.World.environment.interleave ⟨30, 100⟩ shop askedBesides
    (m.state.servers.flatMap (·.received) =
        [⟨some "home".toList, "SELECT 1".toList⟩, ⟨some "home".toList, "USE \x60other\x60".toList⟩,
         ⟨some "other".toList, "SELECT 1".toList⟩, ⟨some "home".toList, "SELECT 1".toList⟩] ∧
      m.state.idleOf 0 = [1] ∧
      m.tasks[1]?.map (·.call.schema?) = some (some "other".toList)) ∧
    m.state.view.AtHome ∧
      ∀ h ∈ m.history, h.task = 1 → ∀ l sql r, h.act = ⟨.fetch l sql, r⟩ →
        ∃ k, h.before.view.InUse l k ∧ k.schema = some "other".toList := by
  refine (and_iff_left_of_imp fun ran => ?_).2 (by decide +kernel)
  obtain ⟨⟨call, left⟩, task, schema⟩ := Option.map_eq_some_iff.1 ran.2.2
  have atHome : shop.view.AtHome := Scripted.World.atHome_start _ _
  have lawful := Scripted.World.lawful ⟨30, 100⟩ (Scripted.World.sound_start _ _) atHome askedBesides
  obtain ⟨atHome, sent⟩ := Scripted.World.environment.schema_kept ⟨30, 100⟩ Scripted.World.view
    atHome askedBesides lawful.2
  refine ⟨atHome, fun h hm first l sql r fetched => ?_⟩
  obtain ⟨k, used, same⟩ := (sent h hm call left (first ▸ task)).1 l sql r fetched
  refine ⟨k, used, ?_⟩
  rw [same, show call.schema? = some "other".toList from schema]
  rfl

end Environment

end QueryGate
