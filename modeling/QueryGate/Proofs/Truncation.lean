import Mathlib.Data.List.Forall2
import QueryGate.Proofs.Json
import QueryGate.Proofs.Trace
import QueryGate.Tool.Run
/-!
# Rows up to a limit

A stream is read one row further than the limit, so that it is known whether there
are more. `Tells` says what every run of a program comes to, by the streams that
the servers answered with: a query comes to the rows up to the limit, or to the
failure that ends the stream before.
-/

namespace QueryGate

open Program (Runs runs_done runs_step runs_bind andThen)

/-! ## Streams, item by item -/

namespace Stream

/-- What is received, one after the other: the rows, and a failure behind them. -/
def items (s : Stream) : List (Except Failure (List RawCell)) :=
  s.rows.map .ok ++ (s.fault.map .error).toList

/-- One of the first `n` items is a failure. -/
def ErrsWithin (s : Stream) (n : Nat) (f : Failure) : Prop :=
  ∃ i < n, s.items[i]? = some (.error f)

variable {s : Stream} {n : Nat} {f : Failure}

theorem errsWithin_iff : s.ErrsWithin n f ↔ s.rows.length < n ∧ s.fault = some f := by
  unfold ErrsWithin items
  constructor
  · rintro ⟨i, hi, item⟩
    rw [List.getElem?_append] at item
    split at item
    · simp at item
    · next behind =>
      rw [List.length_map] at behind item
      cases fault : s.fault with
      | none => simp [fault] at item
      | some g =>
        rw [fault, Option.map_some, Option.toList_some, List.getElem?_singleton] at item
        split at item
        · next last =>
          cases item
          exact ⟨by omega, rfl⟩
        · cases item
  · rintro ⟨few, fault⟩
    refine ⟨s.rows.length, few, ?_⟩
    simp [fault]

theorem upTo_of_errs (h : s.ErrsWithin n f) : s.upTo n = .error f := by
  obtain ⟨few, fault⟩ := errsWithin_iff.1 h
  rw [upTo, if_neg (by omega), fault]

theorem upTo_of_not_errs (h : ∀ f, ¬ s.ErrsWithin n f) : s.upTo n = .ok (s.rows.take n) := by
  unfold upTo
  split
  · rfl
  · next few =>
    cases fault : s.fault with
    | none =>
      change Except.ok s.rows = _
      rw [List.take_of_length_le (by omega)]
    | some f => exact absurd (errsWithin_iff.2 ⟨by omega, fault⟩) (h f)

end Stream

/-! ## What a run tells -/

/-- The stream that a step was answered with. -/
def Act.stream? : Act → Option Stream
  | ⟨.fetch _ _, .ok s⟩ => some s
  | _ => none

def streamsOf (acts : List Act) : List Stream := acts.filterMap Act.stream?

variable {α β : Type}

/-- Every run has `Q` of the streams it was answered with and of what it comes to. -/
def Tells (p : Program α) (Q : List Stream → α → Prop) : Prop :=
  ∀ acts a, Runs p acts a → Q (streamsOf acts) a

namespace Tells

variable {p : Program α} {Q : List Stream → α → Prop}

theorem done {a : α} (h : Q [] a) : Tells (.done a) Q := by
  intro acts b runs
  obtain ⟨rfl, rfl⟩ := runs_done.1 runs
  exact h

/-- A step that brings no stream. -/
theorem step {s : Step} {next : s.Result → Program α} (dry : ∀ r, Act.stream? ⟨s, r⟩ = none)
    (h : ∀ r, Tells (next r) Q) : Tells (.step s next) Q := by
  intro acts a runs
  obtain ⟨r, rest, rfl, hrest⟩ := runs_step.1 runs
  have known := h r rest a hrest
  rwa [streamsOf, List.filterMap_cons_none (dry r)]

theorem fetch {lease : LeaseId} {sql : List Char} {next : Answer Stream → Program α}
    (ok : ∀ s, Tells (next (.ok s)) fun streams => Q (s :: streams))
    (failed : ∀ f, Tells (next (.failed f)) Q) (timedOut : Tells (next .timedOut) Q) :
    Tells (.step (.fetch lease sql) next) Q := by
  intro acts a runs
  obtain ⟨r, rest, rfl, hrest⟩ := runs_step.1 runs
  cases r with
  | ok s => exact ok s rest a hrest
  | failed f => exact failed f rest a hrest
  | timedOut => exact timedOut rest a hrest

theorem bind {f : α → Program β} {S : List Stream → β → Prop} (hp : Tells p Q)
    (hf : ∀ streams a, Q streams a → Tells (f a) fun more => S (streams ++ more)) :
    Tells (p.bind f) S := by
  intro acts b runs
  obtain ⟨first, rest, a, rfl, hfirst, hrest⟩ := runs_bind.1 runs
  have known := hf _ a (hp first a hfirst) rest b hrest
  rwa [streamsOf, List.filterMap_append]

theorem log {level area fields message} {f : Unit → Program α} (h : Tells (f ()) Q) :
    Tells ((Program.log level area fields message).bind f) Q :=
  step (fun _ => rfl) fun _ => h

/-- What brings no stream may come first. -/
theorem after {q : Program (Except Error α)} {f : α → Program (Except Error β)}
    {S : List Stream → Except Error β → Prop} (dry : Tells q fun streams _ => streams = [])
    (error : ∀ e, S [] (.error e)) (ok : ∀ a, Tells (f a) S) : Tells (andThen q f) S := by
  refine bind dry ?_
  rintro streams r rfl
  cases r with
  | error e => exact done (error e)
  | ok a => exact ok a

end Tells

/-! ## Running a statement -/

/-- What a query comes to, where the server answers with a stream. -/
def Stream.result (s : Stream) (limit : Nat) : Except Error QueryResult :=
  match s.upTo (limit + 1) with
  | .ok rows => .ok (Executor.resultOf limit ⟨s.columns, rows, none⟩)
  | .error f => .error f.toError

namespace Executor

theorem tells_leased {pool : PoolId} {work : LeaseId → Program (Answer α)}
    {Q : List Stream → Answer α → Prop} (failed : ∀ f, Q [] (.failed f)) (timedOut : Q [] .timedOut)
    (h : ∀ l, Tells (work l) Q) : Tells (leased pool work) Q := by
  refine Tells.step (fun _ => rfl) ?_
  intro r
  cases r with
  | ok l =>
    change Tells ((work l).bind fun r => .step (.release l) fun _ => .done r) Q
    refine Tells.bind (h l) ?_
    intro streams a known
    refine Tells.step (fun _ => rfl) ?_
    intro _
    refine Tells.done ?_
    rwa [List.append_nil]
  | failed f => exact Tells.done (failed f)
  | timedOut => exact Tells.done timedOut

theorem tells_prepare (lease : LeaseId) (use : Option (List Char)) :
    Tells (prepare lease use) fun streams _ => streams = [] := by
  cases use with
  | none => exact Tells.done rfl
  | some statement =>
    refine Tells.step (fun _ => rfl) ?_
    intro _
    refine Tells.step (fun _ => rfl) ?_
    intro r
    exact Tells.done rfl

/-- A query reads its stream up to the limit, and only logs behind that. -/
theorem tells_runQuery (x : Executor) (pool : PoolId) (sql : List Char)
    (database : Option (List Char)) (maxRows : Option Nat) :
    Tells (x.runQuery pool sql database maxRows) fun streams r =>
      ∀ s ∈ streams, r = s.result (RowLimit.effective maxRows x.maxRows) := by
  unfold runQuery
  dsimp only
  generalize RowLimit.effective maxRows x.maxRows = limit
  cases useStatement database with
  | error e => exact Tells.done (by simp)
  | ok use =>
    refine Tells.log (Tells.bind (Q := fun streams answer =>
      ∀ s ∈ streams, answer = readRows (·.upTo (limit + 1)) (.ok s)) ?_ ?_)
    · refine tells_leased (by simp) (by simp) ?_
      intro lease
      refine Tells.bind (tells_prepare lease use) ?_
      rintro streams prepared rfl
      cases prepared with
      | failed f => exact Tells.done (by simp)
      | timedOut => exact Tells.done (by simp)
      | ok _ =>
        refine Tells.fetch ?_ ?_ ?_
        · intro s
          exact Tells.done (by simp)
        · intro f
          exact Tells.done (by simp)
        · exact Tells.done (by simp)
    · intro streams answer known
      have result : ∀ s ∈ streams, s.result limit =
          (x.settle "query execution" answer).map (resultOf limit) := by
        intro s hs
        rw [known s hs, Stream.result, readRows]
        cases s.upTo (limit + 1) <;> rfl
      cases settled : x.settle "query execution" answer with
      | error e =>
        refine Tells.done ?_
        simp_all [Except.map]
      | ok s =>
        dsimp only
        split
        · refine Tells.log (Tells.done ?_)
          simp_all [Except.map]
        · refine Tells.done ?_
          simp_all [Except.map]

end Executor

/-! ## What the caller gets -/

namespace Stream

/-- A row as values: one for each column and its cell, by the type of the column. -/
structure Converts (s : Stream) (row : List RawCell) (values : List Json) : Prop where
  length : values.length = min s.columns.length row.length
  value : ∀ (i : Nat) (column : Column) (cell : RawCell), s.columns[i]? = some column →
    row[i]? = some cell → values[i]? = some (Column.cell column.type cell).normalize

/-- The first rows, as values. -/
def first (s : Stream) (limit : Nat) : List (List Json) := (s.rows.take limit).map s.values

/-- A stream without rows has no columns for the caller. -/
def names (s : Stream) : List String :=
  if s.rows.isEmpty then [] else s.columns.map Column.name

theorem converts_values (s : Stream) (row : List RawCell) : s.Converts row (s.values row) := by
  constructor
  · rw [values, List.length_map, List.length_zip]
  · intro i column cell hcolumn hcell
    have both : (s.columns.zip row)[i]? = some (column, cell) :=
      List.getElem?_zip_eq_some.2 ⟨hcolumn, hcell⟩
    rw [values, List.getElem?_map, both]
    rfl

/-- Row by row they are those of the stream, and whole. -/
theorem converts_first (s : Stream) (limit : Nat) :
    List.Forall₂ s.Converts (s.rows.take limit) (s.first limit) := by
  rw [first, List.forall₂_map_right_iff, List.forall₂_same]
  exact fun row _ => s.converts_values row

end Stream

namespace QueryOutput

/-- The rows are shown in a format: as values, or in a text. -/
def Shows (o : QueryOutput) (format : OutputFormat) (columns : List String)
    (rows : List (List Json)) : Prop :=
  match format with
  | .json => o.columns = columns ∧ o.rows = rows ∧ o.formatted = none
  | .table => o.columns = [] ∧ o.rows = [] ∧
      o.formatted = some (.ofList (Render.grid Text.width columns rows o.truncated o.milliseconds))
  | .markdown => o.columns = [] ∧ o.rows = [] ∧
      o.formatted = some (.ofList (Render.markdown columns rows o.truncated))

/-- `o` has the rows of a stream up to a limit, and says how many they are and
whether there are more. -/
structure Truncates (o : QueryOutput) (format : OutputFormat) (s : Stream) (limit : Nat) :
    Prop where
  shows : o.Shows format s.names (s.first limit)
  /-- No cell of a row is lost. -/
  whole : List.Forall₂ s.Converts (s.rows.take limit) (s.first limit)
  rowCount : o.rowCount = (s.first limit).length
  length : (s.first limit).length = min s.rows.length limit
  truncated : o.truncated = true ↔ limit < s.rows.length
  /-- The client is told the same. -/
  told : o.toJson.get? "row_count" = some (.int o.rowCount) ∧
    o.toJson.get? "truncated" = some (.bool o.truncated)

theorem shows_ofResult (connection : String) (r : QueryResult) (format : OutputFormat)
    (warning : Option String) :
    (ofResult connection r format warning).Shows format r.columns r.rows := by
  cases format <;> exact ⟨rfl, rfl, rfl⟩

theorem told_toJson (o : QueryOutput) :
    o.toJson.get? "row_count" = some (.int o.rowCount) ∧
      o.toJson.get? "truncated" = some (.bool o.truncated) := by
  have distinct : (["connection", "columns", "rows", "formatted", "truncated", "row_count",
      "execution_time_ms", "warning"] : List String).Nodup := by decide
  constructor
  · refine Json.get?_ofPresent ?_ ?_
    · exact distinct
    · simp
  · refine Json.get?_ofPresent ?_ ?_
    · exact distinct
    · simp

end QueryOutput

namespace Stream

variable {s : Stream} {limit : Nat}

theorem result_of_errs {f : Failure} (h : s.ErrsWithin (limit + 1) f) :
    s.result limit = .error f.toError := by
  rw [result, upTo_of_errs h]

/-- One row more than the limit was read, and it is left out again. -/
theorem result_of_not_errs (h : ∀ f, ¬ s.ErrsWithin (limit + 1) f) :
    s.result limit = .ok
      { columns := s.names, rows := s.first limit, truncated := limit < s.rows.length,
        milliseconds := 0 } := by
  have more : limit < (s.rows.take (limit + 1)).length ↔ limit < s.rows.length := by
    rw [List.length_take]
    omega
  have empty : (s.rows.take (limit + 1)).isEmpty = s.rows.isEmpty := by
    cases s.rows <;> simp
  rw [result, upTo_of_not_errs h]
  simp only [Executor.resultOf, names, first, more, empty, List.take_take]
  rw [Nat.min_eq_left (Nat.le_succ limit)]
  rfl

end Stream

namespace RowLimit

/-- Whoever asks for more rows than there can be is warned, and no one else. -/
theorem warning?_iff (requested : Option Nat) :
    (warning? requested).isSome = true ↔ ∃ asked, requested = some asked ∧ greatest < asked := by
  cases requested with
  | none => simp [warning?]
  | some asked => simp [warning?, Option.filter]

end RowLimit

namespace Tool

theorem tells_gate (sql : List Char) : Tells (gate sql) fun streams _ => streams = [] := by
  unfold gate
  cases Gate.check sql with
  | ok kind => exact Tells.done rfl
  | error e => exact Tells.log (Tells.done rfl)

theorem tells_activeEntry : Tells activeEntry fun streams _ => streams = [] := by
  refine Tells.step (fun _ => rfl) ?_
  intro r
  exact Tells.done rfl

theorem tells_runQuery (x : Executor) (input : QueryInput) :
    Tells (runQuery x input) fun streams r => ∀ s ∈ streams, ∃ connection,
      r = (s.result (RowLimit.effective input.maxRows x.maxRows)).map fun q =>
        .query (.ofResult connection q input.format (RowLimit.warning? input.maxRows)) := by
  refine Tells.after (tells_gate input.sql) (by simp) ?_
  intro kind
  refine Tells.after tells_activeEntry (by simp) ?_
  intro e
  refine Tells.bind (x.tells_runQuery e.pool input.sql (nonBlank input.database) input.maxRows) ?_
  intro streams r known
  cases r with
  | error e =>
    refine Tells.done ?_
    intro s hs
    rw [List.append_nil] at hs
    refine ⟨"", ?_⟩
    rw [← known s hs]
    rfl
  | ok q =>
    refine Tells.log (Tells.done ?_)
    intro s hs
    rw [List.append_nil] at hs
    refine ⟨.ofList e.config.name, ?_⟩
    rw [← known s hs]
    rfl

/-- A query that is answered with a stream comes to its failure, if that is among
the first items up to one behind the limit, or else to its rows up to the limit. -/
theorem runQuery_exact (x : Executor) (input : QueryInput) {acts : List Act}
    {r : Except Error Output} (runs : Runs (runQuery x input) acts r) {s : Stream}
    (fetched : s ∈ streamsOf acts) :
    let asked := input.maxRows.getD (if x.maxRows = 0 then 1000 else x.maxRows)
    let limit := max 1 (min 10000 asked)
    (∀ f, s.ErrsWithin (limit + 1) f → r = .error f.toError) ∧
      ((∀ f, ¬ s.ErrsWithin (limit + 1) f) → ∃ o, r = .ok (.query o) ∧
        o.Truncates input.format s limit ∧
        (o.warning.isSome = true ↔ ∃ n, input.maxRows = some n ∧ 10000 < n)) := by
  intro asked limit
  obtain ⟨connection, known⟩ := tells_runQuery x input acts r runs s fetched
  change r = (s.result limit).map _ at known
  constructor
  · intro f errs
    rw [known, Stream.result_of_errs errs]
    rfl
  · intro fine
    rw [Stream.result_of_not_errs fine] at known
    refine ⟨_, known, ⟨?_, ?_, rfl, ?_, ?_, ?_⟩, ?_⟩
    · exact QueryOutput.shows_ofResult _ _ _ _
    · exact s.converts_first limit
    · rw [Stream.first, List.length_map, List.length_take, Nat.min_comm]
    · exact decide_eq_true_iff
    · exact QueryOutput.told_toJson _
    · exact RowLimit.warning?_iff input.maxRows

/-! ### Three rows and a limit of two -/

def threeRows : Stream := ⟨[⟨"id", "INT"⟩], [[some [49]], [some [50]], [none]], none⟩

/-- One connection, to a server with three rows. -/
def rowsWorld : Scripted.World :=
  let server : Scripted.Server :=
    ⟨"shop", ⟨[("SELECT id FROM t".toList, .rows threeRows.columns threeRows.rows)], none⟩, []⟩
  let config : ConnectionConfig :=
    ⟨"main".toList, "root@tcp(localhost)/".toList, [], true, ⟨0, 0, 0, 0, 0⟩⟩
  ((Scripted.World.start [server] [("localhost".toList, "shop")]).run (Registry.add config)).2

def twoRows : QueryInput := ⟨"SELECT id FROM t".toList, none, some 2, .table⟩

theorem runQuery_exact_rows :
    threeRows ∈ streamsOf
      ((runQuery ⟨30, 0⟩ twoRows).trace Scripted.World.environment.answer rowsWorld) ∧
    (∀ f, ¬ threeRows.ErrsWithin 3 f) ∧
    ∃ o, ((runQuery ⟨30, 0⟩ twoRows).run Scripted.World.environment.answer rowsWorld).1 =
        .ok (.query o) ∧
      o.Truncates .table threeRows 2 ∧ o.truncated = true ∧ o.warning.isSome = false := by
  have fetched : threeRows ∈ streamsOf
      ((runQuery ⟨30, 0⟩ twoRows).trace Scripted.World.environment.answer rowsWorld) := by
    have all : streamsOf ((runQuery ⟨30, 0⟩ twoRows).trace Scripted.World.environment.answer
        rowsWorld) = [threeRows] := by decide +kernel
    rw [all]
    exact List.mem_singleton_self threeRows
  have fine : ∀ f, ¬ threeRows.ErrsWithin 3 f := by
    intro f errs
    cases (Stream.errsWithin_iff.1 errs).2
  obtain ⟨o, known, rows, warning⟩ := (runQuery_exact ⟨30, 0⟩ twoRows
    (Program.runs_run _ (runQuery ⟨30, 0⟩ twoRows) _) fetched).2 fine
  refine ⟨fetched, fine, o, known, rows, rows.truncated.2 (by decide), ?_⟩
  rw [Bool.eq_false_iff, ne_eq, warning]
  rintro ⟨n, asked, many⟩
  cases asked
  exact absurd many (by decide)

end Tool

end QueryGate
