import Mathlib.Control.Monad.Basic
import QueryGate.Proofs.Identifier
import QueryGate.Proofs.Result
import QueryGate.Proofs.Trace
import QueryGate.Server.Session
/-!
# Only what the gate lets through is sent

`MaySend` lists what a call may put on a connection. `sends_call` proves that
every run of every call keeps to it: whatever the registry says, whatever the
servers answer, and whatever other calls do between two steps. `turn_mediated`
carries it along a sequence of calls, and adds what becomes of the registry.
-/

namespace QueryGate

open Program (Runs runs_done runs_step runs_bind run_bind trace_bind bind_eq pure_eq andThen)

/-! ## What is sent -/

/-- A text that was sent, the connection it was sent on, and whether the server
took it. -/
structure Sent where
  lease : LeaseId
  sql : List Char
  taken : Bool
  deriving Repr, DecidableEq

def Answer.isOk {α : Type} : Answer α → Bool
  | ok _ => true
  | _ => false

def Act.sent? : Act → Option Sent
  | ⟨.execute l sql, r⟩ => some ⟨l, sql, r.isOk⟩
  | ⟨.fetch l sql, r⟩ => some ⟨l, sql, r.isOk⟩
  | _ => none

/-- The texts among what was done, in order. -/
def sentBy (acts : List Act) : List Sent := acts.filterMap Act.sent?

/-- A name that is accepted, between backticks. -/
def Sql.Identifier.Quoted (name text : List Char) : Prop :=
  check name = .ok () ∧ text = '\x60' :: name ++ ['\x60']

theorem Sql.Identifier.quoted_of_quote {name text : List Char} (h : quote name = .ok text) :
    Quoted name text :=
  quote_eq_ok_iff.1 h

/-- A text sent for a caller. Where a schema is asked for, `USE` comes first and
on the same connection; the text follows only if the server took that. -/
inductive Delivered : Option (List Char) → List Char → List Sent → Prop
  | alone (l sql taken) : Delivered none sql [⟨l, sql, taken⟩]
  | refused {name quoted} (l sql) : Sql.Identifier.Quoted name quoted →
      Delivered (some name) sql [⟨l, "USE ".toList ++ quoted, false⟩]
  | under {name quoted} (l sql taken) : Sql.Identifier.Quoted name quoted →
      Delivered (some name) sql [⟨l, "USE ".toList ++ quoted, true⟩, ⟨l, sql, taken⟩]

/-- What a call may send, if it sends anything. -/
inductive Tool.Call.MaySend : Call → List Sent → Prop
  | query {input kind sent} : Gate.check input.sql = .ok kind →
      Delivered (nonBlank input.database) input.sql sent → MaySend (.runQuery input) sent
  | plan {input kind sent} : Gate.check input.sql = .ok kind →
      kind ∈ [Gate.Kind.select, .union, .parenthesized] →
      Delivered (nonBlank input.database) ("EXPLAIN ".toList ++ Text.trim input.sql) sent →
      MaySend (.explainQuery input) sent
  | search {input sql kind} (l taken) : input.search.statement = .ok sql →
      Gate.check sql = .ok kind → MaySend (.vectorSearch input) [⟨l, sql, taken⟩]
  | databases (l taken) : MaySend .listDatabases [⟨l, "SHOW DATABASES".toList, taken⟩]
  | tables {input database} (l taken) : Sql.Identifier.Quoted input.database database →
      MaySend (.listTables input) [⟨l, "SHOW TABLE STATUS FROM ".toList ++ database, taken⟩]
  | columns {input database table} (l taken) : Sql.Identifier.Quoted input.database database →
      Sql.Identifier.Quoted input.table table →
      MaySend (.describeTable input)
        [⟨l, "SHOW FULL COLUMNS FROM ".toList ++ (database ++ '.' :: table), taken⟩]
  | indexes {input database table} (l taken) : Sql.Identifier.Quoted input.database database →
      Sql.Identifier.Quoted input.table table →
      MaySend (.listIndexes input)
        [⟨l, "SHOW INDEX FROM ".toList ++ (database ++ '.' :: table), taken⟩]
  | definition {input database table} (l taken) : Sql.Identifier.Quoted input.database database →
      Sql.Identifier.Quoted input.table table →
      MaySend (.showCreateTable input)
        [⟨l, "SHOW CREATE TABLE ".toList ++ (database ++ '.' :: table), taken⟩]

/-! ## Programs and what they send -/

variable {α β : Type}

/-- Every run leaves the registry as it is, and has `Q` of what it sends and of
what it comes to. -/
def Sends (p : Program α) (Q : List Sent → α → Prop) : Prop :=
  ∀ acts a, Runs p acts a → (∀ x ∈ acts, x.step.IsQuiet) ∧ Q (sentBy acts) a

/-- At most something allowed was sent, and nothing at all if it ends in a
rejection. -/
def Heeds (allowed : List Sent → Prop) (sent : List Sent) (r : Except Error α) : Prop :=
  (sent = [] ∨ allowed sent) ∧ ∀ e, r = .error e → e.isRejection → sent = []

/-- Nothing was sent, and what went wrong is no rejection. -/
def Harmless (sent : List Sent) (r : Except Error α) : Prop :=
  sent = [] ∧ ∀ e, r = .error e → e.isRejection = false

namespace Heeds

variable {allowed : List Sent → Prop} {sent : List Sent}

theorem ok {a : α} (h : sent = [] ∨ allowed sent) : Heeds allowed sent (.ok a) :=
  ⟨h, by simp⟩

theorem error {e : Error} (h : sent = [] ∨ allowed sent) (he : e.isRejection = false) :
    Heeds allowed sent (.error e : Except Error α) := by
  refine ⟨h, fun e' same hr => ?_⟩
  cases same
  rw [he] at hr
  cases hr

theorem nothing {r : Except Error α} : Heeds allowed [] r :=
  ⟨.inl rfl, fun _ _ _ => rfl⟩

end Heeds

namespace Sends

variable {p : Program α} {Q R : List Sent → α → Prop}

theorem mono (h : Sends p Q) (hQ : ∀ sent a, Q sent a → R sent a) : Sends p R := by
  intro acts a hr
  obtain ⟨quiet, q⟩ := h acts a hr
  exact ⟨quiet, hQ _ _ q⟩

theorem done {a : α} (h : Q [] a) : Sends (.done a) Q := by
  intro acts b hr
  obtain ⟨rfl, rfl⟩ := runs_done.1 hr
  exact ⟨by simp, h⟩

/-- A step that is neither on the registry nor a text. -/
theorem step {s : Step} {next : s.Result → Program α} (quiet : s.IsQuiet)
    (silent : ∀ r, Act.sent? ⟨s, r⟩ = none) (h : ∀ r, Sends (next r) Q) :
    Sends (.step s next) Q := by
  intro acts a hr
  obtain ⟨r, rest, rfl, hrest⟩ := runs_step.1 hr
  obtain ⟨hq, q⟩ := h r rest a hrest
  refine ⟨List.forall_mem_cons.2 ⟨quiet, hq⟩, ?_⟩
  simpa [sentBy, silent r] using q

theorem log {level area fields message} {f : Unit → Program α} (h : Sends (f ()) Q) :
    Sends ((Program.log level area fields message).bind f) Q :=
  step trivial (fun _ => rfl) fun _ => h

theorem execute {l : LeaseId} {sql : List Char} {next : Answer Unit → Program α}
    (h : ∀ r, Sends (next r) fun sent => Q (⟨l, sql, r.isOk⟩ :: sent)) :
    Sends (.step (.execute l sql) next) Q := by
  intro acts a hr
  obtain ⟨r, rest, rfl, hrest⟩ := runs_step.1 hr
  obtain ⟨hq, q⟩ := h r rest a hrest
  exact ⟨List.forall_mem_cons.2 ⟨trivial, hq⟩, q⟩

theorem fetch {l : LeaseId} {sql : List Char} {next : Answer Stream → Program α}
    (h : ∀ r, Sends (next r) fun sent => Q (⟨l, sql, r.isOk⟩ :: sent)) :
    Sends (.step (.fetch l sql) next) Q := by
  intro acts a hr
  obtain ⟨r, rest, rfl, hrest⟩ := runs_step.1 hr
  obtain ⟨hq, q⟩ := h r rest a hrest
  exact ⟨List.forall_mem_cons.2 ⟨trivial, hq⟩, q⟩

theorem bind {f : α → Program β} {S : List Sent → β → Prop} (hp : Sends p Q)
    (hf : ∀ sent a, Q sent a → Sends (f a) fun rest => S (sent ++ rest)) :
    Sends (p.bind f) S := by
  intro acts b hr
  obtain ⟨first, rest, a, rfl, hfirst, hrest⟩ := runs_bind.1 hr
  obtain ⟨quiet, q⟩ := hp first a hfirst
  obtain ⟨quiet', s⟩ := hf _ a q rest b hrest
  refine ⟨fun x hx => ?_, ?_⟩
  · rcases List.mem_append.1 hx with hx | hx
    · exact quiet x hx
    · exact quiet' x hx
  · rw [sentBy, List.filterMap_append]
    exact s

/-! ### After a success -/

variable {allowed : List Sent → Prop} {q : Program (Except Error α)}
  {f : α → Program (Except Error β)}

/-- What sends nothing may come before what keeps to the rules. -/
theorem after {known : α → Prop}
    (hq : Sends q fun sent r => sent = [] ∧ ∀ a, r = .ok a → known a)
    (hf : ∀ a, known a → Sends (f a) (Heeds allowed)) : Sends (andThen q f) (Heeds allowed) := by
  refine bind hq fun sent r h => ?_
  obtain ⟨rfl, hk⟩ := h
  cases r with
  | error e => exact done .nothing
  | ok a => exact hf a (hk a rfl)

/-- What sends nothing and does not reject may come after. -/
theorem before (hq : Sends q (Heeds allowed)) (hf : ∀ a, Sends (f a) Harmless) :
    Sends (andThen q f) (Heeds allowed) := by
  refine bind hq fun sent r h => ?_
  cases r with
  | error e =>
    refine done ?_
    rw [List.append_nil]
    exact ⟨h.1, fun e he => h.2 e (by cases he; rfl)⟩
  | ok a =>
    refine (hf a).mono fun rest b hb => ?_
    obtain ⟨rfl, hb⟩ := hb
    rw [List.append_nil]
    cases b with
    | error e => exact .error h.1 (hb e rfl)
    | ok b => exact .ok h.1

/-- The same where the last step is only logged. -/
theorem harmless_log {level area fields message} {a : α} :
    Sends ((Program.log level area fields message).bind fun _ => .done (.ok a)) Harmless :=
  log (done ⟨rfl, by simp⟩)

end Sends

/-! ## Running a statement -/

namespace Executor

theorem isRejection_toError (f : Failure) : f.toError.isRejection = false := by
  cases f <;> rfl

theorem isRejection_settle {x : Executor} {operation : String} {r : Answer α} {e : Error}
    (h : x.settle operation r = .error e) : e.isRejection = false := by
  cases r with
  | ok a => cases h
  | failed f => cases h; exact isRejection_toError f
  | timedOut => cases h; rfl

theorem sends_leased {pool : PoolId} {work : LeaseId → Program (Answer α)}
    {Q : List Sent → Prop} (none : Q []) (h : ∀ l, Sends (work l) fun sent _ => Q sent) :
    Sends (leased pool work) fun sent _ => Q sent := by
  refine Sends.step trivial (fun _ => rfl) fun r => ?_
  cases r with
  | ok l =>
    change Sends ((work l).bind fun r => .step (.release l) fun _ => .done r) _
    refine Sends.bind (h l) fun sent a hs => ?_
    refine Sends.step trivial (fun _ => rfl) fun _ => Sends.done ?_
    rwa [List.append_nil]
  | failed f => exact Sends.done none
  | timedOut => exact Sends.done none

theorem useStatement_ok {database use : Option (List Char)} (h : useStatement database = .ok use) :
    (database = none ∧ use = none) ∨
      ∃ name quoted, database = some name ∧ Sql.Identifier.Quoted name quoted ∧
        use = some ("USE ".toList ++ quoted) := by
  cases database with
  | none => cases h; exact .inl ⟨rfl, rfl⟩
  | some name =>
    obtain ⟨quoted, hq, h⟩ := bind_eq_ok.1 h
    have quoted' := Sql.Identifier.quoted_of_quote hq
    exact .inr ⟨name, quoted, rfl, quoted', (pure_eq_ok.1 h).symm⟩

theorem sends_runQuery (x : Executor) (pool : PoolId) (sql : List Char)
    (database : Option (List Char)) (maxRows : Option Nat) :
    Sends (x.runQuery pool sql database maxRows) (Heeds (Delivered database sql)) := by
  unfold runQuery
  dsimp only
  cases hu : useStatement database with
  | error e => exact Sends.done .nothing
  | ok use =>
    refine Sends.log (Sends.bind (Q := fun sent _ => sent = [] ∨ Delivered database sql sent)
      (sends_leased (.inl rfl) fun l => ?_) fun sent answer hs => ?_)
    · rcases useStatement_ok hu with ⟨rfl, rfl⟩ | ⟨name, quoted, rfl, hq, rfl⟩
      · exact Sends.fetch fun r => Sends.done (.inr (.alone l sql _))
      · refine Sends.step trivial (fun _ => rfl) fun _ => Sends.execute fun r => ?_
        -- The text follows its `USE` only where the server took that.
        cases r with
        | ok _ => exact Sends.fetch fun r => Sends.done (.inr (.under l sql _ hq))
        | failed f => exact Sends.done (.inr (.refused l sql hq))
        | timedOut => exact Sends.done (.inr (.refused l sql hq))
    · rw [← List.append_nil sent] at hs
      cases hr : x.settle "query execution" answer with
      | error e => exact Sends.done (.error hs (isRejection_settle hr))
      | ok s =>
        dsimp only
        split
        · exact Sends.log (Sends.done (.ok hs))
        · exact Sends.done (.ok hs)

theorem sends_fetchAll (x : Executor) (pool : PoolId) (sql : List Char) :
    Sends (x.fetchAll pool sql) (Heeds fun sent => ∃ l taken, sent = [⟨l, sql, taken⟩]) := by
  unfold fetchAll
  refine Sends.log (Sends.bind (Q := fun sent _ => sent = [] ∨ ∃ l taken, sent = [⟨l, sql, taken⟩])
    (sends_leased (.inl rfl) fun l => ?_) fun sent answer hs => Sends.done ?_)
  · exact Sends.fetch fun r => Sends.done (.inr ⟨l, _, rfl⟩)
  · rw [List.append_nil]
    cases hr : x.settle "introspection query" answer with
    | error e => exact .error hs (isRejection_settle hr)
    | ok s => exact .ok hs

end Executor

/-! ## The tools -/

namespace Tool

theorem sends_gate (sql : List Char) :
    Sends (gate sql) fun sent r => sent = [] ∧ ∀ kind, r = .ok kind → Gate.check sql = .ok kind := by
  unfold gate
  cases hc : Gate.check sql with
  | ok kind => exact Sends.done ⟨rfl, fun _ h => h⟩
  | error e => exact Sends.log (Sends.done ⟨rfl, by simp⟩)

theorem sends_activeEntry :
    Sends activeEntry fun sent r => sent = [] ∧ ∀ e, r = .ok e → True :=
  Sends.step trivial (fun _ => rfl) fun _ => Sends.done ⟨rfl, by simp⟩

variable (x : Executor)

theorem sends_runQuery (input : QueryInput) :
    Sends (Tool.runQuery x input) (Heeds (Call.MaySend (.runQuery input))) := by
  refine Sends.after (sends_gate _) fun kind hk => Sends.after sends_activeEntry fun e _ => ?_
  refine Sends.before
    ((x.sends_runQuery _ _ _ _).mono fun sent r h => ?_) fun r => Sends.harmless_log
  exact ⟨h.1.imp_right (.query hk), h.2⟩

theorem sends_explainQuery (input : ExplainInput) :
    Sends (Tool.explainQuery x input) (Heeds (Call.MaySend (.explainQuery input))) := by
  refine Sends.after (sends_gate _) fun kind hk => ?_
  by_cases hq : isQuery kind = true
  · simp only [hq, Bool.not_true, Bool.false_eq_true, if_false]
    refine Sends.after sends_activeEntry fun e _ => ?_
    refine Sends.before
      ((x.sends_runQuery _ _ _ _).mono fun sent r h => ?_) fun r => Sends.harmless_log
    have hkind : kind ∈ [Gate.Kind.select, .union, .parenthesized] := by
      cases kind <;> simp_all [isQuery]
    exact ⟨h.1.imp_right (.plan hk hkind), h.2⟩
  · simp only [hq, Bool.not_false, if_true]
    exact Sends.done .nothing

theorem sends_vectorSearch (input : SearchInput) :
    Sends (Tool.vectorSearch x input) (Heeds (Call.MaySend (.vectorSearch input))) := by
  unfold vectorSearch
  cases hs : input.search.statement with
  | error e => exact Sends.done .nothing
  | ok sql =>
    refine Sends.after (sends_gate _) fun kind hk => Sends.after sends_activeEntry fun e _ => ?_
    refine Sends.before
      ((x.sends_runQuery _ _ _ _).mono fun sent r h => ?_) fun r => Sends.harmless_log
    refine ⟨h.1.imp_right fun hd => ?_, h.2⟩
    cases hd with
    | alone l _ taken => exact .search l taken hs hk

/-! ### Schema -/

/-- What is read off the rows of a statement of the server's own. -/
theorem sends_ask {pool : PoolId} {statement : Except Error (List Char)}
    {allowed : List Sent → Prop}
    (h : ∀ sql l taken, statement = .ok sql → allowed [⟨l, sql, taken⟩]) :
    Sends (Schema.ask x pool statement) (Heeds allowed) := by
  cases statement with
  | error e => exact Sends.done .nothing
  | ok sql =>
    refine (x.sends_fetchAll pool sql).mono fun sent r hr => ⟨hr.1.imp_right ?_, hr.2⟩
    rintro ⟨l, taken, rfl⟩
    exact h sql l taken rfl

theorem quoteQualified_ok {database table sql : List Char}
    (h : Sql.Identifier.quoteQualified database table = .ok sql) :
    ∃ d t, Sql.Identifier.Quoted database d ∧ Sql.Identifier.Quoted table t ∧
      sql = d ++ '.' :: t := by
  obtain ⟨d, hd, h⟩ := bind_eq_ok.1 h
  obtain ⟨t, ht, h⟩ := bind_eq_ok.1 h
  have quoted := Sql.Identifier.quoted_of_quote hd
  have quoted' := Sql.Identifier.quoted_of_quote ht
  exact ⟨d, t, quoted, quoted', (pure_eq_ok.1 h).symm⟩

/-- A statement with one quoted name at its end. -/
theorem template_ok {words name sql : List Char}
    (h : (do return words ++ (← Sql.Identifier.quote name) : Except Error (List Char)) = .ok sql) :
    ∃ quoted, Sql.Identifier.Quoted name quoted ∧ sql = words ++ quoted := by
  obtain ⟨quoted, hq, h⟩ := bind_eq_ok.1 h
  exact ⟨quoted, Sql.Identifier.quoted_of_quote hq, (pure_eq_ok.1 h).symm⟩

/-- A statement with a table's quoted names at its end. -/
theorem qualifiedTemplate_ok {words database table sql : List Char}
    (h : (do return words ++ (← Sql.Identifier.quoteQualified database table) :
      Except Error (List Char)) = .ok sql) :
    ∃ d t, Sql.Identifier.Quoted database d ∧ Sql.Identifier.Quoted table t ∧
      sql = words ++ (d ++ '.' :: t) := by
  obtain ⟨quoted, hq, h⟩ := bind_eq_ok.1 h
  obtain ⟨d, t, hd, ht, rfl⟩ := quoteQualified_ok hq
  exact ⟨d, t, hd, ht, (pure_eq_ok.1 h).symm⟩

theorem sends_listDatabases : Sends (Tool.listDatabases x) (Heeds (Call.MaySend .listDatabases)) := by
  refine Sends.after sends_activeEntry fun e _ => ?_
  refine Sends.before (Sends.before ((x.sends_fetchAll _ _).mono fun sent r h => ?_)
    fun s => Sends.harmless_log) fun names => Sends.harmless_log
  refine ⟨h.1.imp_right ?_, h.2⟩
  rintro ⟨l, taken, rfl⟩
  exact .databases l taken

theorem sends_listTables (input : TablesInput) :
    Sends (Tool.listTables x input) (Heeds (Call.MaySend (.listTables input))) := by
  refine Sends.after sends_activeEntry fun e _ => ?_
  refine Sends.before (Sends.before (sends_ask x fun sql l taken h => ?_)
    fun s => Sends.harmless_log) fun tables => Sends.harmless_log
  obtain ⟨d, hd, rfl⟩ := template_ok h
  exact .tables l taken hd

theorem sends_describeTable (input : TableInput) :
    Sends (Tool.describeTable x input) (Heeds (Call.MaySend (.describeTable input))) := by
  refine Sends.after sends_activeEntry fun e _ => ?_
  refine Sends.before (Sends.before (sends_ask x fun sql l taken h => ?_) fun s => ?_)
    fun columns => Sends.harmless_log
  · obtain ⟨d, t, hd, ht, rfl⟩ := qualifiedTemplate_ok h
    exact .columns l taken hd ht
  · dsimp only
    split
    · exact Sends.done ⟨rfl, fun e he => by cases he; rfl⟩
    · exact Sends.done ⟨rfl, by simp⟩

theorem sends_listIndexes (input : TableInput) :
    Sends (Tool.listIndexes x input) (Heeds (Call.MaySend (.listIndexes input))) := by
  refine Sends.after sends_activeEntry fun e _ => ?_
  refine Sends.before (Sends.before (sends_ask x fun sql l taken h => ?_)
    fun s => Sends.done ⟨rfl, by simp⟩) fun indexes => Sends.done ⟨rfl, by simp⟩
  obtain ⟨d, t, hd, ht, rfl⟩ := qualifiedTemplate_ok h
  exact .indexes l taken hd ht

theorem sends_showCreateTable (input : TableInput) :
    Sends (Tool.showCreateTable x input) (Heeds (Call.MaySend (.showCreateTable input))) := by
  refine Sends.after sends_activeEntry fun e _ => ?_
  refine Sends.before (Sends.before (sends_ask x fun sql l taken h => ?_) fun s => ?_)
    fun definition => Sends.done ⟨rfl, by simp⟩
  · obtain ⟨d, t, hd, ht, rfl⟩ := qualifiedTemplate_ok h
    exact .definition l taken hd ht
  · cases Schema.definitionOf s with
    | some definition => exact Sends.done ⟨rfl, by simp⟩
    | none => exact Sends.done ⟨rfl, fun e he => by cases he; rfl⟩

/-! ### Connections -/

theorem sends_listConnections :
    Sends listConnections (Heeds (Call.MaySend .listConnections)) :=
  Sends.step trivial (fun _ => rfl) fun _ => Sends.done ⟨.inl rfl, by simp⟩

/-- Switching asks the registry, and logs it if that went well. -/
theorem useConnection_eq (name : List Char) :
    ∃ event : Option (List Char) → Log.Event,
      Tool.useConnection name = .step (.setActive (Text.trim name)) fun r =>
        match r with
        | .error e => .done (.error e)
        | .ok previous =>
          .step (.log (event previous)) fun _ => .done (.ok (.switched (Text.trim name))) := by
  refine ⟨fun previous => ⟨.info, .registry, "Active connection changed",
    [("connection", shown (Text.trim name)),
     ("previous", .text (Text.visibleOption (previous.map String.ofList)))]⟩, ?_⟩
  refine congrArg (Program.step _) (funext fun r => ?_)
  cases r with
  | error e => rfl
  | ok previous => rfl

theorem sentBy_useConnection {name : List Char} {acts : List Act} {r : Except Error Output}
    (h : Runs (Tool.useConnection name) acts r) : sentBy acts = [] := by
  obtain ⟨event, he⟩ := useConnection_eq name
  rw [he] at h
  obtain ⟨answer, rest, rfl, hrest⟩ := runs_step.1 h
  cases answer with
  | error e =>
    obtain ⟨rfl, -⟩ := runs_done.1 hrest
    rfl
  | ok previous =>
    obtain ⟨_, last, rfl, hlast⟩ := runs_step.1 hrest
    obtain ⟨rfl, -⟩ := runs_done.1 hlast
    rfl

/-! ### Every call -/

theorem sends_call (c : Call) (h : ∀ name, c ≠ .useConnection name) :
    Sends (c.run x) (Heeds c.MaySend) := by
  cases c with
  | listConnections => exact sends_listConnections
  | useConnection name => exact absurd rfl (h name)
  | runQuery input => exact sends_runQuery x input
  | explainQuery input => exact sends_explainQuery x input
  | listDatabases => exact sends_listDatabases x
  | listTables input => exact sends_listTables x input
  | describeTable input => exact sends_describeTable x input
  | listIndexes input => exact sends_listIndexes x input
  | showCreateTable input => exact sends_showCreateTable x input
  | vectorSearch input => exact sends_vectorSearch x input

/-- Every call keeps to the rules, and leaves the registry alone unless it
switches the connection. -/
theorem heeds_run {c : Call} {acts : List Act} {r : Except Error Output}
    (h : Runs (c.run x) acts r) :
    Heeds c.MaySend (sentBy acts) r ∧
      ((∃ name, c = .useConnection name) ∨ ∀ a ∈ acts, a.step.IsQuiet) := by
  by_cases hc : ∃ name, c = .useConnection name
  · obtain ⟨name, rfl⟩ := hc
    rw [sentBy_useConnection h]
    exact ⟨.nothing, .inl ⟨name, rfl⟩⟩
  · obtain ⟨quiet, heeds⟩ := sends_call x c (fun name hn => hc ⟨name, hn⟩) acts r h
    exact ⟨heeds, .inr quiet⟩

end Tool

/-! ## Sequences of calls -/

/-- A call that was answered, with the registry before it and after it. -/
structure Turn where
  call : Tool.Call
  acts : List Act
  outcome : Except Error Tool.Output
  before : Registry
  after : Registry

/-- What the texts of a turn keep to. -/
def Turn.Mediated (t : Turn) : Prop :=
  (sentBy t.acts = [] ∨ t.call.MaySend (sentBy t.acts)) ∧
    (∀ e, t.outcome = .error e → e.isRejection → sentBy t.acts = []) ∧
    (t.after = t.before ∨
      ∃ name, t.call = .useConnection name ∧ t.outcome = .ok (.switched (Text.trim name)) ∧
        t.before.setActive (Text.trim name) = .ok t.after)

namespace Environment

variable (env : Environment) (x : Executor)

/-- The turns of calls that are made one after the other. -/
def turns : List Tool.Call → env.State → List Turn
  | [], _ => []
  | c :: cs, w =>
    let p := c.run x
    let (outcome, after) := p.run env.answer w
    ⟨c, p.trace env.answer w, outcome, env.registry w, env.registry after⟩ :: turns cs after

theorem registry_useConnection (name : List Char) (w : env.State) :
    let (outcome, after) := (Tool.useConnection name).run env.answer w
    env.registry after = env.registry w ∨
      outcome = .ok (.switched (Text.trim name)) ∧
        (env.registry w).setActive (Text.trim name) = .ok (env.registry after) := by
  obtain ⟨event, he⟩ := Tool.useConnection_eq name
  rw [he]
  cases hs : (env.registry w).setActive (Text.trim name) with
  | error e =>
    have h := env.responds (.setActive (Text.trim name)) w (.error e, env.registry w)
      (by simp [Registry.respond?, hs])
    obtain ⟨hr, ha⟩ := Prod.mk.inj h
    left
    simp [Program.run, hr, ha]
  | ok r =>
    have h := env.responds (.setActive (Text.trim name)) w
      (.ok (env.registry w).active, r) (by simp [Registry.respond?, hs])
    obtain ⟨hr, ha⟩ := Prod.mk.inj h
    right
    simp [Program.run, hr, env.registry_quiet (.log _) _ trivial, ha]

theorem turn_mediated (calls : List Tool.Call) (w : env.State) :
    ∀ t ∈ env.turns x calls w, t.Mediated := by
  induction calls generalizing w with
  | nil => simp [turns]
  | cons c cs ih =>
    simp only [turns, List.mem_cons, forall_eq_or_imp]
    refine ⟨?_, ih _⟩
    -- What the call does here is one of its runs, and those are known.
    have runs := Program.runs_run env.answer (c.run x) w
    obtain ⟨⟨sends, rejection⟩, ⟨name, rfl⟩ | quiet⟩ := Tool.heeds_run x runs
    · have switched := env.registry_useConnection name w
      exact ⟨sends, rejection, switched.imp_right fun h => ⟨name, rfl, h⟩⟩
    · exact ⟨sends, rejection, .inl (env.registry_run _ w quiet)⟩

/-- The calls that requests make; what cannot be read makes none. -/
def callsOf (requests : List Server.Request) : List Tool.Call :=
  requests.filterMap fun r => (Tool.Call.read r.tool (r.arguments.getD (.object []))).toOption

theorem trace_answerAll (requests : List Server.Request) (w : env.State) :
    (Server.answerAll x requests).trace env.answer w =
      (env.turns x (callsOf requests) w).flatMap Turn.acts := by
  induction requests generalizing w with
  | nil => rfl
  | cons r rs ih =>
    have split : (Server.answerAll x (r :: rs)).trace env.answer w =
        (Server.answer x r).trace env.answer w ++
          (Server.answerAll x rs).trace env.answer ((Server.answer x r).run env.answer w).2 := by
      simp only [Server.answerAll, bind_eq, pure_eq, trace_bind, Program.trace, List.append_nil]
    rw [split, ih]
    simp only [callsOf, List.filterMap_cons]
    cases hr : Tool.Call.read r.tool (r.arguments.getD (.object [])) with
    | error fault =>
      -- A request that cannot be read makes no turn, so it must do nothing.
      have stop : ∃ e, Server.answer x r = .done (.error e) := by
        cases fault with
        | unknownTool => exact ⟨Server.unknownTool, by simp [Server.answer, hr]⟩
        | badArguments => exact ⟨Server.badArguments, by simp [Server.answer, hr]⟩
      obtain ⟨e, he⟩ := stop
      rw [he]
      rfl
    | ok call =>
      have go : Server.answer x r =
          (call.run x).bind fun o => .done (o.mapError Error.report) := by
        simp only [Server.answer, hr, bind_eq, pure_eq]
        congr 1
        funext o
        cases o <;> rfl
      rw [go, trace_bind, run_bind]
      simp [Program.trace, Program.run, Except.toOption, turns]

/-- Requests are answered in turns, one for each call they make. In each, every
text keeps to the gate, a rejected call sends none, and the registry changes
only with a successful switch. -/
theorem requests_mediated (requests : List Server.Request) (w : env.State) :
    (Server.answerAll x requests).trace env.answer w =
        (env.turns x (callsOf requests) w).flatMap Turn.acts ∧
      ∀ t ∈ env.turns x (callsOf requests) w, t.Mediated :=
  ⟨env.trace_answerAll x requests w, env.turn_mediated x _ w⟩

/-- One connection, to a server that knows one statement. -/
def shopWorld : Scripted.World :=
  let server : Scripted.Server :=
    ⟨"shop", ⟨[("SELECT 1".toList, .rows [] [])], none⟩, []⟩
  let config : ConnectionConfig :=
    ⟨"main".toList, "root@tcp(localhost)/".toList, [], true, ⟨0, 0, 0, 0, 0⟩⟩
  ((Scripted.World.start [server] [("localhost".toList, "shop")]).run (Registry.add config)).2

def shopRequests : List Server.Request :=
  [⟨"run_query", some (.object [("sql", .text "SELECT 1"), ("database", .text "shop")])⟩,
   ⟨"run_query", some (.object [("sql", .text "DROP TABLE users")])⟩]

theorem requests_mediated_shop :
    let turns := Scripted.World.environment.turns ⟨30, 100⟩ (callsOf shopRequests) shopWorld
    turns.map (fun t => (sentBy t.acts).map fun s => String.ofList s.sql) =
        [["USE \x60shop\x60", "SELECT 1"], []] ∧
      ∀ t ∈ turns, t.Mediated :=
  ⟨by decide +kernel,
    (Scripted.World.environment.requests_mediated ⟨30, 100⟩ shopRequests shopWorld).2⟩

end Environment

end QueryGate
