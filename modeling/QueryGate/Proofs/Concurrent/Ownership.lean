import Mathlib.Algebra.BigOperators.Intervals
import QueryGate.Proofs.Concurrent.Handing
/-!
# Who has a pool

Pools change hands while calls get between the steps of each other. `Ledger`
says what becomes of the entries, step by step; `balance` says what each call
does with its own pools. Put together, every pool that was handed over is in one
place: with a call, in one entry, or closed.
-/

namespace QueryGate

open Program (Runs runs_step runs_done)
open Concurrent

/-! ## Steps that change the registry -/

/-- Whether the registry was changed. -/
def Act.Changes : Act → Prop
  | ⟨.insert _, .ok ()⟩ | ⟨.setActive _, .ok _⟩ | ⟨.close, some _⟩ => True
  | _ => False

/-- Whether the registry was closed. -/
def Act.Shuts (a : Act) : Prop := ∃ entries, a = ⟨.close, some entries⟩

/-- Whether a pool was told to a call. -/
def Act.HandsOut (a : Act) : Prop := ∃ e, a = ⟨.active, .ok e⟩

theorem Registry.Does.same {r after : Registry} {a : Act} (does : r.Does a after)
    (still : ¬ a.Changes) : after = r := by
  cases does with
  | inserts | switches | closes => exact absurd trivial still
  | _ => rfl

/-- After a call that changed nothing, each of its steps did not. -/
theorem not_changes_of_hand {c : Call} {h : Hand} {acts : List Act}
    (same : ((handing c).after h acts).changed = false) :
    h.changed = false ∧ ∀ a ∈ acts, ¬ a.Changes := by
  induction acts generalizing h with
  | nil => exact ⟨same, by simp⟩
  | cons a acts ih =>
    obtain ⟨next, later⟩ := ih same
    have first : h.changed = false ∧ ¬ a.Changes := by
      change (h.next a).changed = false at next
      unfold Hand.next at next
      unfold Act.Changes
      split at next <;> simp_all
    exact ⟨first.1, List.forall_mem_cons.2 ⟨first.2, later⟩⟩

theorem not_changes_of_isQuiet {a : Act} (quiet : a.step.IsQuiet) : ¬ a.Changes := by
  unfold Act.Changes
  split
  · exact fun _ => quiet
  · exact fun _ => quiet
  · exact fun _ => quiet
  · exact id

/-- A tool that fails has not changed the registry. -/
theorem not_changes_of_tool {x : Executor} {c : Tool.Call} {acts : List Act} {e : Error}
    (runs : Runs (c.run x) acts (.error e)) : ∀ a ∈ acts, ¬ a.Changes := by
  obtain ⟨-, ⟨name, rfl⟩ | quiet⟩ := Tool.heeds_run x runs
  · obtain ⟨event, he⟩ := Tool.useConnection_eq name
    change Runs (Tool.useConnection name) acts _ at runs
    rw [he] at runs
    obtain ⟨answer, rest, rfl, hrest⟩ := runs_step.1 runs
    cases answer with
    | error e =>
      obtain ⟨rfl, -⟩ := runs_done.1 hrest
      simp [Act.Changes]
    | ok previous =>
      obtain ⟨_, last, rfl, hlast⟩ := runs_step.1 hrest
      obtain ⟨-, hlast⟩ := runs_done.1 hlast
      cases hlast
  · exact fun a ha => not_changes_of_isQuiet (quiet a ha)

/-! ## The ledger -/

/-- What became of the entries. -/
structure Ledger (r : Registry) (acts : List Act) : Prop where
  kept : inserted acts = taken acts ++ r.entries
  open_of : r.closed = false → taken acts = []
  closed_of : r.closed → r.entries = []
  shut : ∀ entries, ⟨.close, some entries⟩ ∈ acts → r.closed ∧ taken acts = entries
  /-- Nothing comes in and nothing is handed out any more. -/
  final : acts.Pairwise fun earlier later =>
    earlier.Shuts → later.inserted? = none ∧ ¬ later.HandsOut

theorem ledger_empty : Ledger .empty [] := by
  constructor <;> simp [inserted, taken, Registry.empty]

namespace Ledger

variable {r after : Registry} {acts : List Act} {a : Act}

/-- A registry that was closed by a step is closed. -/
theorem closed_of_shuts (h : Ledger r acts) (ha : a ∈ acts) (shuts : a.Shuts) : r.closed := by
  obtain ⟨entries, rfl⟩ := shuts
  exact (h.shut entries ha).1

/-- A step that moves no entry. -/
theorem idle (h : Ledger r acts) (entries : after.entries = r.entries)
    (same : after.closed = r.closed) (inserts : a.inserted? = none) (takes : a.taken = [])
    (shuts : ¬ a.Shuts) (handsOut : r.closed → ¬ a.HandsOut) : Ledger after (acts ++ [a]) := by
  have insertedSame : inserted (acts ++ [a]) = inserted acts := by
    simp [inserted, List.filterMap_append, inserts]
  have takenSame : taken (acts ++ [a]) = taken acts := by
    simp [taken, List.flatMap_append, takes]
  refine ⟨?_, ?_, ?_, fun es he => ?_, ?_⟩
  · rw [insertedSame, takenSame, entries, h.kept]
  · rw [same, takenSame]
    exact h.open_of
  · rw [same, entries]
    exact h.closed_of
  · rw [same, takenSame]
    obtain old | now := List.mem_append.1 he
    · exact h.shut es old
    · exact absurd ⟨es, (List.mem_singleton.1 now).symm⟩ shuts
  · refine List.pairwise_append.2 ⟨h.final, List.pairwise_singleton _ _, fun b hb c hc shut => ?_⟩
    rw [List.mem_singleton.1 hc]
    exact ⟨inserts, handsOut (h.closed_of_shuts hb shut)⟩

/-- Each step on the registry is in the ledger. -/
theorem does (h : Ledger r acts) (does : r.Does a after) : Ledger after (acts ++ [a]) := by
  have open_final {b : Act} (isOpen : r.closed = false) (hb : b ∈ acts) : ¬ b.Shuts := fun shuts => by
    have := h.closed_of_shuts hb shuts
    rw [isOpen] at this
    cases this
  cases does with
  | @inserts e isOpen isNew =>
    have takenSame : taken (acts ++ [⟨.insert e, .ok ()⟩]) = [] := by
      rw [taken_append, h.open_of isOpen]
      rfl
    refine ⟨?_, fun _ => takenSame, fun closed => ?_, fun es he => ?_, ?_⟩
    · rw [inserted_append, takenSame, h.kept, h.open_of isOpen]
      rfl
    · change r.closed at closed
      rw [isOpen] at closed
      cases closed
    · obtain old | now := List.mem_append.1 he
      · exact absurd ⟨es, rfl⟩ (open_final isOpen old)
      · simp at now
    · refine List.pairwise_append.2 ⟨h.final, List.pairwise_singleton _ _, fun b hb c _ shut => ?_⟩
      exact absurd shut (open_final isOpen hb)
  | closes isOpen =>
    have takenAll : taken (acts ++ [⟨.close, some r.entries⟩]) = r.entries := by
      rw [taken_append, h.open_of isOpen]
      exact List.append_nil _
    refine ⟨?_, by simp, fun _ => rfl, fun es he => ⟨rfl, ?_⟩, ?_⟩
    · rw [inserted_append, takenAll, h.kept, h.open_of isOpen]
      rfl
    · obtain old | now := List.mem_append.1 he
      · exact absurd ⟨es, rfl⟩ (open_final isOpen old)
      · rw [takenAll]
        simpa [eq_comm] using now
    · refine List.pairwise_append.2 ⟨h.final, List.pairwise_singleton _ _, fun b hb c _ shut => ?_⟩
      exact absurd shut (open_final isOpen hb)
  | tells =>
    refine h.idle rfl rfl rfl rfl (by simp [Act.Shuts]) fun closed => ?_
    simp [Act.HandsOut, Registry.activeEntry, closed]
  | @elsewhere a elsewhere =>
    obtain ⟨s, result⟩ := a
    cases s <;> first
      | exact elsewhere.elim
      | exact h.idle rfl rfl rfl rfl (by simp [Act.Shuts]) (by simp [Act.HandsOut])
  | _ => exact h.idle rfl rfl rfl rfl (by simp [Act.Shuts]) (by simp [Act.HandsOut])

end Ledger

/-! ## What a schedule comes to -/

namespace Concurrent

def Task.Over (t : Task) : Prop := ∃ r, t.left = .done r

/-- Whether a task came to an error. -/
def Task.Failed (t : Task) : Prop := ∃ r, t.left = .done r ∧ t.call.Failed r

namespace Machine

variable {env : Environment}

/-- The pools that a task was given, and those it made. -/
def received (m : Machine env) (i : Nat) : List PoolId :=
  m.tasks[i]?.elim [] (·.call.given) ++ opened (m.actsOf i)

/-- The pools a task has yet to register or to close. -/
def inHand (m : Machine env) (i : Nat) : List PoolId :=
  m.tasks[i]?.elim [] fun t => ((handing t.call).after ⟨t.call.given, false⟩ (m.actsOf i)).pools

/-- How many pools of the name `p` were handed to calls. -/
def handed (m : Machine env) (p : PoolId) : Nat :=
  ∑ i ∈ Finset.range m.tasks.length, (m.received i).count p

/-- What is counted over the tasks one by one is counted over all that was
done. -/
theorem sum_actsOf {m : Machine env} {F : List Act → Nat}
    (add : ∀ acts more, F (acts ++ more) = F acts + F more) {n : Nat}
    (bound : ∀ h ∈ m.history, h.task < n) :
    ∑ i ∈ Finset.range n, F (m.actsOf i) = F m.acts := by
  have none : F [] = 0 := by simpa using add [] []
  unfold acts actsOf
  generalize m.history = history at bound ⊢
  induction history with
  | nil => simp [none]
  | cons h history ih =>
    obtain ⟨first, later⟩ := List.forall_mem_cons.1 bound
    have split (i : Nat) : F (((h :: history).filter (·.task = i)).map Moment.act) =
        (if h.task = i then F [h.act] else 0) + F ((history.filter (·.task = i)).map Moment.act) := by
      by_cases same : h.task = i
      · rw [List.filter_cons_of_pos (by simpa using same), if_pos same, List.map_cons,
          ← List.singleton_append, add]
      · rw [List.filter_cons_of_neg (by simpa using same), if_neg same, Nat.zero_add]
    simp only [split, Finset.sum_add_distrib, ih later, Finset.sum_ite_eq, Finset.mem_range, first,
      if_true]
    exact (add [h.act] _).symm

/-- Where the pools are, and what became of the calls that had them. -/
structure Accounts (m : Machine env) : Prop where
  /-- Every pool that was handed over is with a call, in an entry, or closed. -/
  placed : ∀ p, m.handed p =
    (∑ i ∈ Finset.range m.tasks.length, (m.inHand i).count p) +
      (m.registry.entries.map (·.pool)).count p + (closed m.acts).count p
  /-- A call that has returned has registered or closed each pool it received. -/
  returned : ∀ i t, m.tasks[i]? = some t → t.Over → m.inHand i = [] ∧
    ∀ p ∈ m.received i, (m.received i).count p =
      ((inserted (m.actsOf i)).map (·.pool)).count p + (closed (m.actsOf i)).count p
  /-- What was registered is in the registry, unless it was taken to be closed. -/
  kept : inserted m.acts = taken m.acts ++ m.registry.entries
  /-- So a pool that was handed over once is closed by its call, or held by one
  entry, or was taken from it. -/
  held : ∀ i t p, m.tasks[i]? = some t → t.Over → p ∈ m.received i → m.handed p = 1 →
    p ∈ closed (m.actsOf i) ∧ p ∉ m.registry.entries.map (·.pool) ∨
      (m.registry.entries.map (·.pool)).count p = 1 ∧ p ∉ closed m.acts ∨
      p ∈ (taken m.acts).map (·.pool)
  once : ∀ p, (closed m.acts).count p ≤ m.handed p
  /-- A call that failed has not changed the registry. -/
  unchanged : ∀ i t, m.tasks[i]? = some t → t.Failed →
    ∀ h ∈ m.history, h.task = i → env.registry h.after = env.registry h.before
  /-- The call that closed the registry has closed every pool in it. -/
  shut : ∀ i t, m.tasks[i]? = some t → t.Over → (∃ a ∈ m.actsOf i, a.Shuts) →
    ∀ e ∈ inserted m.acts, e.pool ∈ closed (m.actsOf i)
  final : m.acts.Pairwise fun earlier later =>
    earlier.Shuts → later.inserted? = none ∧ ¬ later.HandsOut

end Machine

/-! ### Calls that add and calls that close -/

theorem taken_eq_nil {c : Call} {h : Hand} {acts : List Act}
    (allowed : (handing c).Allowed h acts) (adds : c.Adds) : taken acts = [] := by
  refine List.flatMap_eq_nil_iff.2 fun a ha => ?_
  obtain ⟨h, allows⟩ := (handing c).allows_of_mem allowed ha
  unfold Act.taken
  split
  · cases c with
    | close => exact adds.elim
    | _ => exact allows.elim
  · rfl

theorem inserted_eq_nil {c : Call} {h : Hand} {acts : List Act}
    (allowed : (handing c).Allowed h acts) (closes : c.Closes) : inserted acts = [] := by
  refine List.filterMap_eq_nil_iff.2 fun a ha => ?_
  obtain ⟨h, allows⟩ := (handing c).allows_of_mem allowed ha
  unfold Act.inserted?
  split
  · cases c with
    | close => exact allows.1.elim
    | _ => exact closes.elim
  · rfl

theorem adds_of_received {c : Call} {h : Hand} {acts : List Act} {p : PoolId}
    (allowed : (handing c).Allowed h acts) (hp : p ∈ c.given ++ opened acts) : c.Adds := by
  obtain given | made := List.mem_append.1 hp
  · cases c <;> trivial
  · obtain ⟨a, ha, opens⟩ := List.mem_filterMap.1 made
    obtain ⟨h, allows⟩ := (handing c).allows_of_mem allowed ha
    unfold Act.opened? at opens
    split at opens
    · exact allows
    · cases opens

end Concurrent

namespace Environment

variable (env : Environment) {x : Executor} {w : env.State}

theorem ledger (h : env.registry w = .empty) (moves : List Move) :
    Ledger (env.interleave x w moves).registry (env.interleave x w moves).acts := by
  refine env.invariant (P := fun m => Ledger m.registry m.acts) ?_ (fun m call old => old)
    (fun m i call s next _ old => ?_) moves
  · simpa [Machine.registry, h, Machine.acts] using ledger_empty
  · rw [Machine.acts_perform]
    exact old.does Machine.registry_perform

section

variable {moves : List Move} {m : Machine env} {i : Nat} {t : Task}

/-- What a task received and took is in its hand, in the registry, or closed. -/
theorem balance_task (reached : env.interleave x w moves = m) (found : m.tasks[i]? = some t)
    (p : PoolId) :
    (m.received i).count p + ((taken (m.actsOf i)).map (·.pool)).count p =
      (m.inHand i).count p + ((inserted (m.actsOf i)).map (·.pool)).count p +
        (closed (m.actsOf i)).count p := by
  subst reached
  have allowed := (env.keeps_task (keeps_handing x) moves found).1
  simpa [Machine.received, Machine.inHand, found] using balance allowed p

theorem inHand_eq_nil (reached : env.interleave x w moves = m) (found : m.tasks[i]? = some t)
    (ended : t.Over) : m.inHand i = [] := by
  subst reached
  obtain ⟨r, hr⟩ := ended
  have keeps := (env.keeps_task (keeps_handing x) moves found).2
  rw [hr] at keeps
  simpa [Machine.inHand, found] using keeps.1

/-- A call that was handed a pool takes none out of the registry. -/
theorem taken_of_received (reached : env.interleave x w moves = m) (found : m.tasks[i]? = some t)
    {p : PoolId} (hp : p ∈ m.received i) : taken (m.actsOf i) = [] := by
  subst reached
  have allowed := (env.keeps_task (keeps_handing x) moves found).1
  refine taken_eq_nil allowed (adds_of_received (p := p) allowed ?_)
  simpa [Machine.received, found] using hp

theorem placed (reached : env.interleave x w moves = m) (h : env.registry w = .empty) (p : PoolId) :
    m.handed p =
      (∑ i ∈ Finset.range m.tasks.length, (m.inHand i).count p) +
        (m.registry.entries.map (·.pool)).count p + (closed m.acts).count p := by
  have bound : ∀ h ∈ m.history, h.task < m.tasks.length := reached ▸ env.task_lt moves
  have kept : inserted m.acts = taken m.acts ++ m.registry.entries :=
    reached ▸ (env.ledger (x := x) h moves).kept
  have tasks : ∑ i ∈ Finset.range m.tasks.length,
      ((m.received i).count p + ((taken (m.actsOf i)).map (·.pool)).count p) =
      ∑ i ∈ Finset.range m.tasks.length,
        ((m.inHand i).count p + ((inserted (m.actsOf i)).map (·.pool)).count p +
          (closed (m.actsOf i)).count p) := by
    refine Finset.sum_congr rfl fun i hi => ?_
    have found := List.getElem?_eq_getElem (Finset.mem_range.1 hi)
    exact env.balance_task reached found p
  simp only [Finset.sum_add_distrib] at tasks
  rw [Machine.sum_actsOf (F := fun acts => ((taken acts).map (·.pool)).count p) (by simp) bound,
    Machine.sum_actsOf (F := fun acts => ((inserted acts).map (·.pool)).count p) (by simp) bound,
    Machine.sum_actsOf (F := fun acts => (closed acts).count p) (by simp) bound,
    kept, List.map_append, List.count_append] at tasks
  rw [Machine.handed]
  omega

/-- What a call did that failed has not changed the registry. -/
theorem not_changes_of_failed (reached : env.interleave x w moves = m)
    (found : m.tasks[i]? = some t) (failed : t.Failed) : ∀ a ∈ m.actsOf i, ¬ a.Changes := by
  subst reached
  obtain ⟨call, left⟩ := t
  obtain ⟨r, same, failed⟩ := failed
  dsimp only at r same failed
  subst same
  have runs := env.runs_of_over moves found
  by_cases tool : call.IsTool
  · cases call with
    | tool c =>
      obtain ⟨e, rfl⟩ := failed
      exact not_changes_of_tool runs
    | _ => exact tool.elim
  · have keeps := (env.keeps_task (keeps_handing x) moves found).2
    exact (not_changes_of_hand (keeps.2 tool failed)).2

/-- The call that closed the registry has closed every pool in it. -/
theorem closed_of_over (reached : env.interleave x w moves = m) (h : env.registry w = .empty)
    (found : m.tasks[i]? = some t) (ended : t.Over) {a : Act} (ha : a ∈ m.actsOf i)
    (shuts : a.Shuts) : ∀ e ∈ inserted m.acts, e.pool ∈ closed (m.actsOf i) := by
  intro e he
  have ledger : Ledger m.registry m.acts := reached ▸ env.ledger (x := x) h moves
  obtain ⟨entries, rfl⟩ := shuts
  obtain ⟨isClosed, all⟩ := ledger.shut entries (Machine.mem_acts_of_mem_actsOf ha)
  -- All that was inserted was taken, and by this call.
  rw [ledger.kept, ledger.closed_of isClosed, List.append_nil, all] at he
  have took : e ∈ taken (m.actsOf i) := List.mem_flatMap.2 ⟨_, ha, he⟩
  have none : inserted (m.actsOf i) = [] := by
    subst reached
    have allowed := (env.keeps_task (keeps_handing x) moves found).1
    obtain ⟨_, closes⟩ := (handing t.call).allows_of_mem allowed ha
    exact inserted_eq_nil allowed closes
  have balanced := env.balance_task reached found e.pool
  have pos : 0 < ((taken (m.actsOf i)).map (·.pool)).count e.pool :=
    List.count_pos_iff.2 (List.mem_map_of_mem took)
  rw [none, env.inHand_eq_nil reached found ended] at balanced
  simp only [List.map_nil, List.count_nil] at balanced
  exact List.count_pos_iff.1 (by omega)

end

/-- However calls get between the steps of each other, and whatever pings and
servers answer, no pool is lost and none is closed twice. -/
theorem accounts (x : Executor) (h : env.registry w = .empty) (moves : List Move) :
    (env.interleave x w moves).Accounts := by
  generalize reached : env.interleave x w moves = m
  have ledger : Ledger m.registry m.acts := reached ▸ env.ledger (x := x) h moves
  have placed := env.placed reached h
  have returned {i : Nat} {t : Task} (found : m.tasks[i]? = some t) (ended : t.Over) {p : PoolId}
      (hp : p ∈ m.received i) : (m.received i).count p =
        ((inserted (m.actsOf i)).map (·.pool)).count p + (closed (m.actsOf i)).count p := by
    have balanced := env.balance_task reached found p
    rw [env.taken_of_received reached found hp, env.inHand_eq_nil reached found ended] at balanced
    simpa using balanced
  refine
    { placed
      returned := fun i t found ended =>
        ⟨env.inHand_eq_nil reached found ended, fun p hp => returned found ended hp⟩
      kept := ledger.kept
      held := fun i t p found ended hp once => ?_
      once := fun p => by have := placed p; omega
      unchanged := fun i t found failed moment hm same => ?_
      shut := fun i t found ended ⟨a, ha, shuts⟩ => env.closed_of_over reached h found ended ha shuts
      final := ledger.final }
  · have single := placed p
    rw [once] at single
    have received : 0 < (m.received i).count p := List.count_pos_iff.2 hp
    rw [returned found ended hp] at received
    have own : (m.actsOf i).Sublist m.acts := List.filter_sublist.map _
    obtain closes | inserts := Nat.add_pos_iff_pos_or_pos.1 received |>.symm
    · -- It was closed, so it is in no other place.
      have everywhere : 0 < (closed m.acts).count p :=
        Nat.lt_of_lt_of_le closes ((own.filterMap Act.closed?).count_le p)
      exact .inl ⟨List.count_pos_iff.1 closes, List.count_eq_zero.1 (by omega)⟩
    · have everywhere : p ∈ (inserted m.acts).map (·.pool) :=
        ((own.filterMap Act.inserted?).map Entry.pool).subset (List.count_pos_iff.1 inserts)
      rw [ledger.kept, List.map_append, List.mem_append] at everywhere
      obtain taken | held := everywhere
      · exact .inr (.inr taken)
      · have := List.count_pos_iff.2 held
        exact .inr (.inl ⟨by omega, List.count_eq_zero.1 (by omega)⟩)
  · have still := env.not_changes_of_failed reached found failed moment.act
      (Machine.mem_actsOf.2 ⟨moment, hm, same, rfl⟩)
    subst reached
    exact (env.does_moment moves moment hm).same still

/-- Two calls add a connection of the same name; once the first one is in, the
registry is closed, and the second one comes too late. -/
def closedBetween : List Move :=
  List.flatten
    [[.start (.add (shopConfig "main")), .start (.add (shopConfig "main")), .start .close],
     (List.replicate 4 [.advance 0, .advance 1]).flatten,
     [.advance 0, .advance 0, .advance 2], List.replicate 3 (.advance 1),
     List.replicate 4 (.advance 2)]

/-- The second one closes its own pool, and the other one is closed as well. -/
theorem accounts_closedBetween :
    let m := Scripted.World.environment.interleave ⟨30, 100⟩ shop closedBetween
    (m.received 0 = [0] ∧ m.received 1 = [1] ∧ (inserted m.acts).map (·.pool) = [0] ∧
      closed (m.actsOf 1) = [1] ∧ closed (m.actsOf 2) = [0]) ∧ m.Accounts :=
  ⟨by decide +kernel, Scripted.World.environment.accounts ⟨30, 100⟩ (w := shop) rfl closedBetween⟩

end Environment

end QueryGate
