import QueryGate.Proofs.Identifier
import QueryGate.Proofs.Stripping
import QueryGate.Proofs.Text.Cut
import QueryGate.Schema.Template
/-!
# Statements about the schema

The four statements that name a table or a database are fixed words and, behind
them, quoted names with points between them. What is said here of one of them is
said of any list of names behind any words without quotes.
-/

namespace QueryGate.Sql

open Identifier (Acceptable ticked quote)
open Text (joinWith joinWith_cons joinWith_singleton)

/-! ## Quoted names -/

/-- What a text between backticks stands for: a pair of backticks is one. -/
def undoubled : List Char → List Char
  | '\x60' :: '\x60' :: s => '\x60' :: undoubled s
  | c :: s => c :: undoubled s
  | [] => []

/-- The name that a part of a text quotes. -/
def Part.name? : Part → Option (List Char)
  | closed .backtick inner => some (undoubled inner)
  | _ => none

/-- The parts of quoted names with points between them. -/
def nameParts : List (List Char) → List Part
  | [] => []
  | [name] => [.closed .backtick name]
  | name :: names => .closed .backtick name :: .live '.' :: nameParts names

theorem undoubled_eq_self {s : List Char} (h : '\x60' ∉ s) : undoubled s = s := by
  induction s with
  | nil => rfl
  | cons c s ih =>
    obtain ⟨hc, hs⟩ := List.ne_and_not_mem_of_not_mem_cons h
    have step : undoubled (c :: s) = c :: undoubled s := by
      rw [undoubled]
      rintro s rfl
      exact absurd rfl hc
    rw [step, ih hs]

namespace Identifier.Acceptable

variable {name : List Char}

theorem content (h : Acceptable name) : Content .backtick name := by
  have plain := h.no_backtick
  clear h
  induction name with
  | nil => exact .nil
  | cons c name ih =>
    obtain ⟨hc, others⟩ := List.ne_and_not_mem_of_not_mem_cons plain
    exact .plain (Ne.symm hc) (by simp [Quote.escapes]) (ih others)

end Identifier.Acceptable

variable {names : List (List Char)}

theorem nameParts_cons (name next : List Char) (names : List (List Char)) :
    nameParts (name :: next :: names) =
      .closed .backtick name :: .live '.' :: nameParts (next :: names) := rfl

/-- Two quoted names have a point between them. -/
theorem joinWith_ticked (name next : List Char) (names : List (List Char)) :
    joinWith ['.'] (ticked name :: next :: names) =
      Quote.backtick.char :: name ++
        Quote.backtick.char :: '.' :: joinWith ['.'] (next :: names) := by
  rw [joinWith_cons, ticked, List.append_assoc]
  rfl

theorem parts_names (h : ∀ name ∈ names, Acceptable name) :
    Parts (nameParts names) (joinWith ['.'] (names.map ticked)) := by
  induction names with
  | nil => exact .nil
  | cons name names ih =>
    obtain ⟨first, others⟩ := List.forall_mem_cons.1 h
    cases names with
    | nil =>
      rw [List.map_singleton, joinWith_singleton]
      exact .closed first.content (by simp) .nil
    | cons next names =>
      have point : ∀ q : Quote, '.' ≠ q.char := by
        intro q
        cases q <;> decide
      rw [nameParts_cons, List.map_cons, List.map_cons, joinWith_ticked]
      exact .closed first.content (by simpa using point .backtick) (.live point (ih others))

theorem names_nameParts (h : ∀ name ∈ names, Acceptable name) :
    (nameParts names).filterMap Part.name? = names := by
  induction names with
  | nil => rfl
  | cons name names ih =>
    obtain ⟨first, others⟩ := List.forall_mem_cons.1 h
    have read : (Part.closed .backtick name).name? = some name :=
      congrArg some (undoubled_eq_self first.no_backtick)
    cases names with
    | nil => exact List.filterMap_cons_some read
    | cons next names =>
      have point : (Part.live '.').name? = none := rfl
      rw [nameParts_cons, List.filterMap_cons_some read, List.filterMap_cons_none point, ih others]

theorem emptied_nameParts (names : List (List Char)) :
    ((nameParts names).map Part.emptied).flatMap Part.text =
      joinWith ['.'] (names.map fun name => ticked (blanks name)) := by
  induction names with
  | nil => rfl
  | cons name names ih =>
    cases names with
    | nil => simp [nameParts, Part.emptied, Part.text, joinWith, ticked, Quote.char]
    | cons next names =>
      rw [nameParts_cons, List.map_cons, List.map_cons, List.map_cons, List.map_cons,
        joinWith_ticked, List.flatMap_cons, List.flatMap_cons, ih]
      simp [Part.emptied, Part.text]

/-! ## Words in front of the names -/

/-- Words without quotes are parts of their own. -/
theorem Parts.behind_words {words s : List Char} {ps : List Part} (hw : Unmarked words)
    (h : Parts ps s) : Parts (words.map .live ++ ps) (words ++ s) := by
  induction words with
  | nil => exact h
  | cons c words ih =>
    obtain ⟨first, others⟩ := List.forall_mem_cons.1 hw
    exact .live (Quote.ne_char first) (ih others)

theorem names_words (words : List Char) : (words.map Part.live).filterMap Part.name? = [] := by
  rw [List.filterMap_eq_nil_iff]
  intro part hp
  obtain ⟨c, -, rfl⟩ := List.mem_map.1 hp
  rfl

theorem emptied_words (words : List Char) :
    ((words.map Part.live).map Part.emptied).flatMap Part.text = words := by
  induction words with
  | nil => rfl
  | cons c words ih => exact congrArg (c :: ·) ih

end QueryGate.Sql

namespace QueryGate.Schema.Template

open Sql (Unmarked Part Parts stripLiterals blanks nameParts)
open Sql.Identifier (Acceptable ticked quote)
open Text (joinWith joinWith_cons joinWith_singleton)

/-! ## Quoting a list of names -/

theorem quote_all {names : List (List Char)} (h : ∀ name ∈ names, Acceptable name) :
    names.mapM quote = .ok (names.map ticked) := by
  rw [mapM_eq_ok_iff]
  induction names with
  | nil => exact .nil
  | cons name names ih =>
    obtain ⟨first, others⟩ := List.forall_mem_cons.1 h
    exact .cons (Sql.Identifier.quote_of_acceptable first) (ih others)

/-- Of names that cannot all be quoted one is named in the error. -/
theorem quote_fails {names : List (List Char)} (h : ¬ ∀ name ∈ names, Acceptable name) :
    ∃ name ∈ names, ¬ Acceptable name ∧
      ∃ reason, names.mapM quote = .error (.invalidIdentifier (.ofList name) reason) := by
  induction names with
  | nil => exact absurd (List.forall_mem_nil _) h
  | cons name names ih =>
    by_cases first : Acceptable name
    · have others : ¬ ∀ name ∈ names, Acceptable name :=
        fun others => h (List.forall_mem_cons.2 ⟨first, others⟩)
      obtain ⟨other, ho, bad, reason, refused⟩ := ih others
      refine ⟨other, List.mem_cons_of_mem _ ho, bad, reason, ?_⟩
      rw [List.mapM_cons, Sql.Identifier.quote_of_acceptable first, refused]
      rfl
    · obtain ⟨reason, refused⟩ := Sql.Identifier.quote_refused first
      refine ⟨name, List.mem_cons_self, first, reason, ?_⟩
      rw [List.mapM_cons, refused]
      rfl

/-! ## The four statements -/

/-- The statements that name something. -/
inductive Kind where
  | tableStatus
  | fullColumns
  | indexes
  | createTable
  deriving Repr, DecidableEq

namespace Kind

def statement : Kind → List Char → List Char → Except Error (List Char)
  | tableStatus, database, _ => Template.tableStatus database
  | fullColumns, database, table => Template.fullColumns database table
  | indexes, database, table => Template.indexes database table
  | createTable, database, table => Template.createTable database table

def words : Kind → List Char
  | tableStatus => "SHOW TABLE STATUS FROM ".toList
  | fullColumns => "SHOW FULL COLUMNS FROM ".toList
  | indexes => "SHOW INDEX FROM ".toList
  | createTable => "SHOW CREATE TABLE ".toList

/-- The names that the statement has in it. -/
def used : Kind → List Char → List Char → List (List Char)
  | tableStatus, database, _ => [database]
  | fullColumns, database, table | indexes, database, table | createTable, database, table =>
    [database, table]

theorem unmarked_words (k : Kind) : Unmarked k.words := by
  cases k <;> decide

/-- All four put their names behind their words in the same way. -/
theorem statement_eq (k : Kind) (database table : List Char) :
    k.statement database table =
      ((k.used database table).mapM quote).map fun quoted => k.words ++ joinWith ['.'] quoted := by
  have one (words : List Char) :
      (do return words ++ (← quote database) : Except Error (List Char)) =
      ([database].mapM quote).map fun quoted => words ++ joinWith ['.'] quoted := by
    rw [List.mapM_cons]
    cases quote database with
    | error e => rfl
    | ok d =>
      change Except.ok (words ++ d) = Except.ok (words ++ joinWith ['.'] [d])
      rw [joinWith_singleton]
  -- The first name that is refused ends both sides with its error.
  have both (words : List Char) :
      (do return words ++ (← Sql.Identifier.quoteQualified database table) :
        Except Error (List Char)) =
      ([database, table].mapM quote).map fun quoted => words ++ joinWith ['.'] quoted := by
    rw [Sql.Identifier.quoteQualified, List.mapM_cons, List.mapM_cons]
    cases quote database with
    | error e => rfl
    | ok d =>
      cases quote table with
      | error e => rfl
      | ok t =>
        change Except.ok (words ++ (d ++ '.' :: t)) = Except.ok (words ++ joinWith ['.'] [d, t])
        rw [joinWith_cons, joinWith_singleton]
        rfl
  cases k with
  | tableStatus => exact one _
  | fullColumns => exact both _
  | indexes => exact both _
  | createTable => exact both _

theorem statement_of_acceptable {k : Kind} {database table : List Char}
    (h : ∀ name ∈ k.used database table, Acceptable name) :
    k.statement database table =
      .ok (k.words ++ joinWith ['.'] ((k.used database table).map ticked)) := by
  rw [statement_eq, quote_all h]
  rfl

theorem statement_refused {k : Kind} {database table : List Char}
    (h : ¬ ∀ name ∈ k.used database table, Acceptable name) :
    ∃ name ∈ k.used database table, ¬ Acceptable name ∧ ∃ reason,
      k.statement database table = .error (.invalidIdentifier (.ofList name) reason) := by
  obtain ⟨name, hn, bad, reason, refused⟩ := quote_fails h
  exact ⟨name, hn, bad, reason, by rw [statement_eq, refused]; rfl⟩

theorem acceptable_of_statement {k : Kind} {database table sql : List Char}
    (h : k.statement database table = .ok sql) :
    ∀ name ∈ k.used database table, Acceptable name := by
  by_contra bad
  obtain ⟨name, -, -, reason, refused⟩ := statement_refused bad
  rw [refused] at h
  cases h

/-- The parts of a statement are its words and its names. -/
theorem parts_statement {k : Kind} {database table sql : List Char}
    (h : k.statement database table = .ok sql) :
    Parts (k.words.map .live ++ nameParts (k.used database table)) sql := by
  have good := acceptable_of_statement h
  rw [statement_of_acceptable good] at h
  cases h
  exact (Sql.parts_names good).behind_words k.unmarked_words

/-- The quoted names of a statement are those it was made for. -/
theorem names_statement {k : Kind} {database table sql : List Char}
    (h : k.statement database table = .ok sql) {ps : List Part} (hp : Parts ps sql) :
    ps.filterMap Part.name? = k.used database table := by
  rw [Sql.parts_unique (parts_statement h) hp, List.filterMap_append, Sql.names_words,
    Sql.names_nameParts (acceptable_of_statement h), List.nil_append]

theorem stripped_statement {k : Kind} {database table sql : List Char}
    (h : k.statement database table = .ok sql) :
    stripLiterals sql =
      k.words ++ joinWith ['.'] ((k.used database table).map fun name => ticked (blanks name)) := by
  rw [(parts_statement h).stripped, List.map_append, List.flatMap_append, Sql.emptied_words,
    Sql.emptied_nameParts]

/-- A statement is refused, with an error that says which name is not acceptable,
or all its names are. Then it is its words and its names between backticks: its
literals stripped leave no more than that, the names are read back from between
the backticks, and no other names make the same statement. -/
theorem statement_reads_back (k : Kind) (database table : List Char) :
    (∃ name ∈ k.used database table, ¬ Acceptable name ∧ ∃ reason,
      k.statement database table = .error (.invalidIdentifier (.ofList name) reason)) ∨
    ((∀ name ∈ k.used database table, Acceptable name) ∧
      ∃ sql, k.statement database table = .ok sql ∧
        stripLiterals sql = k.words ++
          joinWith ['.'] ((k.used database table).map fun name => ticked (blanks name)) ∧
        (∃ ps, Parts ps sql ∧ ps.filterMap Part.name? = k.used database table) ∧
        (∀ ps, Parts ps sql → ps.filterMap Part.name? = k.used database table) ∧
        ∀ database' table', k.statement database' table' = .ok sql →
          k.used database' table' = k.used database table) := by
  by_cases good : ∀ name ∈ k.used database table, Acceptable name
  · have made := statement_of_acceptable good
    have read := parts_statement made
    refine .inr ⟨good, _, made, stripped_statement made, ⟨_, read, names_statement made read⟩,
      fun ps hp => names_statement made hp, fun database' table' same => ?_⟩
    exact (names_statement same read).symm.trans (names_statement made read)
  · exact .inl (statement_refused good)

end Kind

end QueryGate.Schema.Template
