import QueryGate.Proofs.Concurrent.Discipline
import QueryGate.Proofs.Mediation
/-!
# How a call is served

A call that goes to a server asks for the active connection once, takes a
connection of that pool, prepares it if a schema is asked for, sends its
statement, gives the connection back and answers in the name of the entry it
was told. `Phase` follows how far a call got, and `keeps_tool` says that every
tool goes on as it says, whatever its steps come to.
-/

namespace QueryGate

open Program (Keeps keeps_bind keeps_log andThen)
open Tool (nonBlank)

/-! ## Phases -/

/-- How far a connection is prepared for the statement of a call. -/
inductive Grip where
  | fresh
  /-- It will not go back to its pool. -/
  | retired
  /-- It has the schema that was asked for. -/
  | under
  deriving DecidableEq

/-- The grip a statement needs. -/
def Grip.ready : Option (List Char) → Grip
  | none => fresh
  | some _ => under

/-- How far a call got. -/
inductive Phase where
  | idle
  /-- It was told the active entry. -/
  | routed (e : Entry)
  | holding (e : Entry) (l : LeaseId) (grip : Grip)

/-- A text that is fetched for a call: one that passed the gate, one to be
explained that did, or a statement of the server's own. -/
inductive Tool.Fetched : List Char → Prop
  | accepted {sql kind} : Gate.check sql = .ok kind → Fetched sql
  | plan {sql kind} : Gate.check sql = .ok kind → Fetched (explained sql)
  | databases : Fetched Schema.Template.databases
  | tables {database sql} : Schema.Template.tableStatus database = .ok sql → Fetched sql
  | columns {database table sql} :
      Schema.Template.fullColumns database table = .ok sql → Fetched sql
  | indexes {database table sql} : Schema.Template.indexes database table = .ok sql → Fetched sql
  | definition {database table sql} :
      Schema.Template.createTable database table = .ok sql → Fetched sql

namespace Phase

/-- The connection a call has in hand. -/
def lease? : Phase → Option LeaseId
  | holding _ l _ => some l
  | _ => none

def entry? : Phase → Option Entry
  | idle => none
  | routed e | holding e _ _ => some e

/-- What a call that asks for a schema, or for none, may do next. -/
def Allows (schema : Option (List Char)) : Phase → Step → Prop
  | _, .log _ => True
  | idle, .active | idle, .summaries | idle, .setActive _ => True
  | routed e, .lease pool => pool = e.pool
  | holding _ l .fresh, .retire l' => l' = l
  | holding _ l .retired, .execute l' sql =>
    l' = l ∧ ∃ name quoted, schema = some name ∧ Sql.Identifier.Quoted name quoted ∧
      sql = "USE ".toList ++ quoted
  | holding _ l grip, .fetch l' sql => l' = l ∧ grip = .ready schema ∧ Tool.Fetched sql
  | holding _ l _, .release l' => l' = l
  | _, _ => False

def next : Phase → Act → Phase
  | idle, ⟨.active, .ok e⟩ => routed e
  | routed e, ⟨.lease _, .ok l⟩ => holding e l .fresh
  | holding e l _, ⟨.retire _, _⟩ => holding e l .retired
  | holding e l _, ⟨.execute .., .ok ()⟩ => holding e l .under
  | holding e _ _, ⟨.release _, _⟩ => routed e
  | h, _ => h

/-- All that a call can do next, with what comes of it. -/
inductive Goes (schema : Option (List Char)) : Phase → Act → Phase → Prop
  | logs {h event r} : Goes schema h ⟨.log event, r⟩ h
  | lists {r} : Goes schema idle ⟨.summaries, r⟩ idle
  | switches {name r} : Goes schema idle ⟨.setActive name, r⟩ idle
  | routes {e} : Goes schema idle ⟨.active, .ok e⟩ (routed e)
  | unrouted {error} : Goes schema idle ⟨.active, .error error⟩ idle
  | leases {e l} : Goes schema (routed e) ⟨.lease e.pool, .ok l⟩ (holding e l .fresh)
  | unleased {e r} : r.isOk = false → Goes schema (routed e) ⟨.lease e.pool, r⟩ (routed e)
  | retires {e l r} : Goes schema (holding e l .fresh) ⟨.retire l, r⟩ (holding e l .retired)
  | uses {e l name quoted} : schema = some name → Sql.Identifier.Quoted name quoted →
      Goes schema (holding e l .retired) ⟨.execute l ("USE ".toList ++ quoted), .ok ()⟩
        (holding e l .under)
  | unused {e l name quoted r} : schema = some name → Sql.Identifier.Quoted name quoted →
      r.isOk = false →
      Goes schema (holding e l .retired) ⟨.execute l ("USE ".toList ++ quoted), r⟩
        (holding e l .retired)
  | fetches {e l sql r} : Tool.Fetched sql →
      Goes schema (holding e l (.ready schema)) ⟨.fetch l sql, r⟩ (holding e l (.ready schema))
  | releases {e l grip r} : Goes schema (holding e l grip) ⟨.release l, r⟩ (routed e)

theorem goes {schema : Option (List Char)} {h : Phase} {s : Step} (allowed : h.Allows schema s)
    (r : s.Result) : Goes schema h ⟨s, r⟩ (h.next ⟨s, r⟩) := by
  obtain _ | e | ⟨e, l, grip⟩ := h
  · cases s with
    | log => exact .logs
    | active => cases r with
      | ok e => exact .routes
      | error error => exact .unrouted
    | summaries => exact .lists
    | setActive name => exact .switches
    | _ => exact allowed.elim
  · cases s with
    | log => exact .logs
    | lease pool =>
      obtain rfl : pool = e.pool := allowed
      cases r with
      | ok l => exact .leases
      | failed | timedOut => exact .unleased rfl
    | _ => exact allowed.elim
  · cases s with
    | log => exact .logs
    | retire l' =>
      cases grip with
      | fresh =>
        obtain rfl : l' = l := allowed
        exact .retires
      | _ => exact allowed.elim
    | execute l' sql =>
      cases grip with
      | retired =>
        obtain ⟨rfl, name, quoted, asked, hq, rfl⟩ := allowed
        cases r with
        | ok _ => exact .uses asked hq
        | failed | timedOut => exact .unused asked hq rfl
      | _ => exact allowed.elim
    | fetch l' sql =>
      have allowed : l' = l ∧ grip = .ready schema ∧ Tool.Fetched sql := by cases grip <;> exact allowed
      obtain ⟨rfl, rfl, fetched⟩ := allowed
      exact .fetches fetched
    | release l' =>
      have same : l' = l := by cases grip <;> exact allowed
      obtain rfl := same
      exact .releases
    | _ => cases grip <;> exact allowed.elim

end Phase

/-- What a call may do that asks for a schema, or for none. -/
def serving (schema : Option (List Char)) : Discipline Phase where
  allows := Phase.Allows schema
  next := Phase.next
  allows_log h e := by cases h <;> trivial
  next_log h e r := by cases h <;> rfl

/-! ## Running a statement -/

namespace Executor

variable {α : Type} {schema : Option (List Char)} {e : Entry}

theorem keeps_leased {work : LeaseId → Program (Answer α)}
    (keeps : ∀ l, (work l).Keeps (serving schema) (fun h _ => ∃ grip, h = .holding e l grip)
      (.holding e l .fresh)) :
    (leased e.pool work).Keeps (serving schema) (fun h _ => h = .routed e) (.routed e) := by
  refine ⟨rfl, fun r => ?_⟩
  cases r with
  | ok l =>
    refine (keeps l).bind fun h a held => ?_
    obtain ⟨grip, rfl⟩ := held
    exact ⟨rfl, fun _ => rfl⟩
  | failed f => exact rfl
  | timedOut => exact rfl

theorem keeps_runQuery (x : Executor) {sql : List Char} (maxRows : Option Nat)
    (fetched : Tool.Fetched sql) :
    (x.runQuery e.pool sql schema maxRows).Keeps (serving schema) (fun h _ => h = .routed e)
      (.routed e) := by
  unfold runQuery
  dsimp only
  cases hu : useStatement schema with
  | error e => exact rfl
  | ok use =>
    refine keeps_log.2 ((keeps_leased fun l => ?_).bind fun h answer routed => ?_)
    · rcases useStatement_ok hu with ⟨rfl, rfl⟩ | ⟨name, quoted, rfl, hq, rfl⟩
      · exact ⟨⟨rfl, rfl, fetched⟩, fun r => ⟨.fresh, rfl⟩⟩
      · refine ⟨rfl, fun _ => ⟨⟨rfl, name, quoted, rfl, hq, rfl⟩, fun r => ?_⟩⟩
        cases r with
        | ok _ => exact ⟨⟨rfl, rfl, fetched⟩, fun r => ⟨.under, rfl⟩⟩
        | failed f => exact ⟨.retired, rfl⟩
        | timedOut => exact ⟨.retired, rfl⟩
    · subst routed
      cases x.settle "query execution" answer with
      | error e => exact rfl
      | ok s =>
        dsimp only
        split
        · exact keeps_log.2 rfl
        · exact rfl

theorem keeps_fetchAll (x : Executor) {sql : List Char} (fetched : Tool.Fetched sql) :
    (x.fetchAll e.pool sql).Keeps (serving none) (fun h _ => h = .routed e) (.routed e) := by
  refine keeps_log.2 ((keeps_leased fun l => ?_).bind fun h answer routed => routed)
  exact ⟨⟨rfl, rfl, fetched⟩, fun r => ⟨.fresh, rfl⟩⟩

end Executor

/-! ## The tools -/

namespace Tool

variable (x : Executor) {schema : Option (List Char)} {e : Entry} {α : Type}

/-- No connection is left in hand, and an answer is in the name of the entry
that the call was told. -/
def Answered (h : Phase) (r : Except Error Output) : Prop :=
  h.lease? = none ∧
    ∀ o, r = .ok o → ∃ e, h = .routed e ∧ o.connection? = some (.ofList e.config.name)

theorem answered_error {h : Phase} {error : Error} (free : h.lease? = none) :
    Answered h (.error error) :=
  ⟨free, by simp⟩

theorem answered_ok {o : Output} (h : o.connection? = some (.ofList e.config.name)) :
    Answered (.routed e) (.ok o) :=
  ⟨rfl, fun o' same => ⟨e, rfl, by cases same; exact h⟩⟩

theorem keeps_gate {sql : List Char} {f : Gate.Kind → Program (Except Error Output)}
    (keeps : ∀ kind, Gate.check sql = .ok kind → (f kind).Keeps (serving schema) Answered .idle) :
    (andThen (gate sql) f).Keeps (serving schema) Answered .idle := by
  unfold gate
  cases hc : Gate.check sql with
  | ok kind => exact keeps kind hc
  | error error => exact keeps_log.2 (answered_error rfl)

theorem keeps_active {f : Entry → Program (Except Error Output)}
    (keeps : ∀ e, (f e).Keeps (serving schema) Answered (.routed e)) :
    (andThen activeEntry f).Keeps (serving schema) Answered .idle := by
  refine ⟨trivial, fun r => ?_⟩
  cases r with
  | error error => exact answered_error rfl
  | ok e => exact keeps e

/-- A statement is run in between. -/
theorem keeps_after {q : Program (Except Error α)} {f : α → Program (Except Error Output)}
    (keeps : q.Keeps (serving schema) (fun h _ => h = .routed e) (.routed e))
    (rest : ∀ a, (f a).Keeps (serving schema) Answered (.routed e)) :
    (andThen q f).Keeps (serving schema) Answered (.routed e) := by
  refine keeps.andThen (fun h error routed => ?_) (fun h a routed => ?_)
  · subst routed
    exact answered_error rfl
  · subst routed
    exact rest a

/-- What is read off an answer needs no further step. -/
theorem keeps_read {β : Type} {q : Program (Except Error α)} {f : α → Program (Except Error β)}
    (keeps : q.Keeps (serving schema) (fun h _ => h = .routed e) (.routed e))
    (rest : ∀ a, (f a).Keeps (serving schema) (fun h _ => h = .routed e) (.routed e)) :
    (andThen q f).Keeps (serving schema) (fun h _ => h = .routed e) (.routed e) := by
  refine keeps.andThen (fun h error routed => routed) (fun h a routed => ?_)
  subst routed
  exact rest a

theorem keeps_ask {statement : Except Error (List Char)}
    (fetched : ∀ sql, statement = .ok sql → Fetched sql) :
    (Schema.ask x e.pool statement).Keeps (serving none) (fun h _ => h = .routed e)
      (.routed e) := by
  cases statement with
  | error error => exact rfl
  | ok sql => exact x.keeps_fetchAll (fetched sql rfl)

/-- The schema that a call asks for. -/
def Call.schema? : Call → Option (List Char)
  | runQuery input => nonBlank input.database
  | explainQuery input => nonBlank input.database
  | _ => none

/-- Whether a call goes to the server of the active connection. -/
def Call.IsRouted : Call → Prop
  | listConnections | useConnection _ => False
  | _ => True

/-- What every call comes to. -/
def Call.Served (c : Call) (h : Phase) (r : Except Error Output) : Prop :=
  h.lease? = none ∧ (c.IsRouted → Answered h r)

theorem keeps_routed {c : Call} {p : Program (Except Error Output)}
    (keeps : p.Keeps (serving schema) Answered .idle) : p.Keeps (serving schema) c.Served .idle :=
  keeps.mono fun _ _ answered => ⟨answered.1, fun _ => answered⟩

/-- Every call goes on as its phases say. -/
theorem keeps_tool (c : Call) : (c.run x).Keeps (serving c.schema?) c.Served .idle := by
  cases c with
  | listConnections => exact ⟨trivial, fun _ => ⟨rfl, False.elim⟩⟩
  | useConnection name =>
    refine ⟨trivial, fun r => ?_⟩
    cases r with
    | error error => exact ⟨rfl, False.elim⟩
    | ok previous => exact ⟨trivial, fun _ => ⟨rfl, False.elim⟩⟩
  | runQuery input =>
    refine keeps_routed (keeps_gate fun kind hk => keeps_active fun e => ?_)
    exact keeps_after (x.keeps_runQuery _ (.accepted hk)) fun r => keeps_log.2 (answered_ok rfl)
  | explainQuery input =>
    refine keeps_routed (keeps_gate fun kind hk => ?_)
    split
    · exact answered_error rfl
    · refine keeps_active fun e => ?_
      exact keeps_after (x.keeps_runQuery _ (.plan hk)) fun r => keeps_log.2 (answered_ok rfl)
  | vectorSearch input =>
    refine keeps_routed ?_
    change (Tool.vectorSearch x input).Keeps (serving none) Answered .idle
    unfold vectorSearch
    cases input.search.statement with
    | error error => exact answered_error rfl
    | ok sql =>
      refine keeps_gate fun kind hk => keeps_active fun e => ?_
      exact keeps_after (x.keeps_runQuery _ (.accepted hk)) fun r => keeps_log.2 (answered_ok rfl)
  | listDatabases =>
    refine keeps_routed (keeps_active fun e => keeps_after ?_ fun _ => keeps_log.2 (answered_ok rfl))
    exact keeps_read (x.keeps_fetchAll .databases) fun s => keeps_log.2 rfl
  | listTables input =>
    refine keeps_routed (keeps_active fun e => keeps_after ?_ fun _ => keeps_log.2 (answered_ok rfl))
    exact keeps_read (keeps_ask x fun sql h => .tables h) fun s => keeps_log.2 rfl
  | describeTable input =>
    refine keeps_routed (keeps_active fun e => keeps_after ?_ fun _ => keeps_log.2 (answered_ok rfl))
    refine keeps_read (keeps_ask x fun sql h => .columns h) fun s => ?_
    dsimp only
    split <;> exact rfl
  | listIndexes input =>
    refine keeps_routed (keeps_active fun e => keeps_after ?_ fun _ => answered_ok rfl)
    exact keeps_read (keeps_ask x fun sql h => .indexes h) fun s => rfl
  | showCreateTable input =>
    refine keeps_routed (keeps_active fun e => keeps_after ?_ fun _ => answered_ok rfl)
    refine keeps_read (keeps_ask x fun sql h => .definition h) fun s => ?_
    cases Schema.definitionOf s <;> exact rfl

end Tool

end QueryGate
