import QueryGate.Error
import QueryGate.Sql.Literal
import QueryGate.Text.Cut
import QueryGate.Text.Pattern
/-!
# The lexical layer

A search of the raw text for what no read-only statement has in it. Statement
keywords are looked for at the beginning of the text, all else anywhere outside
its literals. The first rule that matches gives the reason.
-/

namespace QueryGate.Gate.Lexical

open QueryGate.Text (Pattern)

/-- What a lexical rule keeps out. -/
inductive Reason where
  | fileAccess
  | definition
  | modification
  | administration
  | locking
  | transaction
  | prepared
  | procedure
  | dangerousFunction
  | comment
  | notReadOnly
  deriving Repr, DecidableEq

def Reason.text : Reason → String
  | fileAccess => "file access is not allowed"
  | definition => "schema modification is not allowed"
  | modification => "data modification is not allowed"
  | administration => "administrative statements are not allowed"
  | locking => "table locking is not allowed"
  | transaction => "transaction control is not allowed"
  | prepared => "prepared statements are not allowed"
  | procedure => "stored procedure calls are not allowed"
  | dangerousFunction => "dangerous function call is not allowed"
  | comment => "SQL comments are not allowed"
  | notReadOnly => "statement must begin with SELECT, SHOW, DESCRIBE, DESC or EXPLAIN"

/-- What a rule searches: the text as it is, from its beginning, or the text
without its literals, everywhere. -/
inductive Reach where
  | start
  | anywhere
  deriving Repr, DecidableEq

/-- A rule matches if one of its patterns does. -/
structure Rule where
  reach : Reach
  patterns : List Pattern
  reason : Reason
  label : String
  deriving Repr

namespace Rule

/-- A whole word at the beginning. -/
def leading (reason : Reason) (keyword : String) : Rule :=
  ⟨.start, [.blanks :: Pattern.word keyword ++ [.edge]], reason, keyword⟩

/-- Two words at the beginning; the second may end in `S` or not. -/
def leadingTables (first : String) : Rule :=
  let two (second : String) : Pattern :=
    .blanks :: Pattern.word first ++ Pattern.gap ++ Pattern.word second ++ [.edge]
  ⟨.start, [two "TABLES", two "TABLE"], .locking, first ++ " TABLES"⟩

/-- Two words in a row, anywhere. -/
def pair (reason : Reason) (first second : String) : Rule :=
  ⟨.anywhere, [.edge :: Pattern.word first ++ Pattern.gap ++ Pattern.word second ++ [.edge]],
    reason, first ++ " " ++ second⟩

/-- A function's name before an opening parenthesis, anywhere. -/
def call (reason : Reason) (name : String) : Rule :=
  ⟨.anywhere, [.edge :: Pattern.word name ++ [.blanks, .char '(']], reason, name ++ "("⟩

def mark (text : String) : Rule := ⟨.anywhere, [Pattern.word text], .comment, text⟩

/-- Whether the rule matches a text with the given copy without literals. -/
def fires (r : Rule) (sql stripped : List Char) : Bool :=
  r.patterns.any fun p =>
    match r.reach with
    | .start => p.matchesStart sql
    | .anywhere => p.occurs stripped

end Rule

/-- Assignments that reach beyond the session's own variables. -/
def setGlobal : Rule :=
  let set : Pattern := .blanks :: Pattern.word "SET" ++ Pattern.gap
  ⟨.start, [set ++ Pattern.word "GLOBAL" ++ [.edge], set ++ Pattern.word "SESSION" ++ [.edge],
    set ++ Pattern.word "@@"], .administration, "SET GLOBAL|SESSION|@@"⟩

def startTransaction : Rule :=
  let words : Pattern := Pattern.word "START" ++ Pattern.gap ++ Pattern.word "TRANSACTION"
  ⟨.start, [.blanks :: words ++ [.edge]], .transaction, "START TRANSACTION"⟩

/-- All rules, in the order in which they are tried. -/
def rules : List Rule :=
  List.flatten [
    [.call .fileAccess "LOAD_FILE", .pair .fileAccess "INTO" "OUTFILE",
     .pair .fileAccess "INTO" "DUMPFILE", .pair .fileAccess "LOAD" "DATA"],
    ["CREATE", "ALTER", "DROP", "TRUNCATE", "RENAME"].map (.leading .definition),
    ["INSERT", "UPDATE", "DELETE", "REPLACE"].map (.leading .modification),
    ["GRANT", "REVOKE"].map (.leading .administration),
    [setGlobal],
    ["FLUSH", "RESET", "KILL", "SHUTDOWN"].map (.leading .administration),
    ["LOCK", "UNLOCK"].map .leadingTables,
    [startTransaction],
    ["BEGIN", "COMMIT", "ROLLBACK", "SAVEPOINT"].map (.leading .transaction),
    ["PREPARE", "EXECUTE", "DEALLOCATE"].map (.leading .prepared),
    [.leading .procedure "CALL"],
    ["SLEEP", "BENCHMARK", "GET_LOCK", "RELEASE_LOCK", "IS_FREE_LOCK", "IS_USED_LOCK"].map
      (.call .dangerousFunction),
    ["--", "/*", "#"].map .mark]

/-- A semicolon may stand at the end only. -/
def isSingle (stripped : List Char) : Bool :=
  let body := Text.trimEnd stripped
  !((Text.before? [';'] body).getD body).contains ';'

/-- The words a read-only statement may begin with. -/
def readOnlyWords : List String := ["SELECT", "SHOW", "DESCRIBE", "DESC", "EXPLAIN"]

def beginsReadOnly (sql : List Char) : Bool :=
  readOnlyWords.any fun w => Text.beginsWith w.toList (Text.upper sql)

/-- Accepts one statement that no rule matches and that begins like a read. -/
def check (text : List Char) : Except Error Unit :=
  let sql := Text.trim text
  if sql.isEmpty then .error .emptyInput
  else
    let stripped := Sql.stripLiterals sql
    if !isSingle stripped then .error .multipleStatements
    else
      match rules.find? (·.fires sql stripped) with
      | some r => .error (.blockedPattern r.reason.text r.label)
      | none =>
        if beginsReadOnly sql then .ok ()
        else .error (.blockedPattern Reason.notReadOnly.text (.ofList (Text.firstWord sql)))

end QueryGate.Gate.Lexical
