import QueryGate.Error
import QueryGate.Sql.Identifier
import QueryGate.Sql.Literal
import QueryGate.Text.Cut
import QueryGate.Text.Pattern
/-!
# Fragments

A caller's select list is rebuilt from quoted names, and a caller's filter is
searched for what it may not have in it. Both are then spliced into a statement
of fixed shape.
-/

namespace QueryGate.Gate.Fragment

open QueryGate.Text (Pattern)
open QueryGate.Sql (Identifier.quote stripLiterals)

/-! ## Select lists -/

/-- What may not occur in a select list, in capitals. -/
def forbiddenParts : List String :=
  ["(", ")", ";", "--", "/*", "*/", "@@", "SLEEP", "BENCHMARK", "LOAD_FILE", "INTO", "OUTFILE",
   "DUMPFILE", "UNION", "INFORMATION_SCHEMA"]

/-- The word between a name and its alias. -/
def aliasSeparator : Pattern := Pattern.gap ++ Pattern.word "AS" ++ Pattern.gap

/-- Quotes `column`, `table.column` or `table.*`. -/
def quoteReference (reference : List Char) : Except Error (List Char) :=
  if 1 < reference.count '.' then
    .error (.invalidIdentifier (.ofList reference)
      "a column reference is \x60column\x60 or \x60table.column\x60")
  else
    match Text.cutFirst '.' reference with
    | some (table, ['*']) => do return (← Identifier.quote (Text.trim table)) ++ ['.', '*']
    | some (table, column) => do
      return (← Identifier.quote (Text.trim table)) ++ '.' ::
        (← Identifier.quote (Text.trim column))
    | none => Identifier.quote reference

/-- Quotes one item of a list: `*`, or a reference that may have an alias. -/
def quoteItem (text : List Char) : Except Error (List Char) :=
  let item := Text.trim text
  if item = ['*'] then .ok item
  else
    match aliasSeparator.split item with
    | some (name, label) => do
      return (← quoteReference (Text.trim name)) ++ " AS ".toList ++
        (← Identifier.quote (Text.trim label))
    | none => quoteReference item

/-- The list with every name quoted; a blank list is `*`. -/
def selectList (text : List Char) : Except Error (List Char) :=
  let columns := Text.trim text
  if columns.isEmpty then .ok ['*']
  else
    let capitals := Text.upper columns
    match forbiddenParts.find? fun p => Text.hasPart p.toList capitals with
    | some part => .error (.forbiddenToken part)
    | none => do
      return Text.joinWith ", ".toList (← (Text.pieces ',' columns).mapM quoteItem)

/-! ## Filters -/

def maxFilterLength : Nat := 1000

def wholeWord (w : String) : Pattern := .edge :: Pattern.word w ++ [.edge]

/-- A word and, after blanks, a mark. -/
def wordBefore (w : String) (mark : Char) : Pattern :=
  .edge :: Pattern.word w ++ [.blanks, .char mark]

/-- What may not occur in a filter outside its literals. -/
def filterPatterns : List (Pattern × String) :=
  [(Pattern.word ";", ";"), (Pattern.word "--", "--"), (Pattern.word "/*", "/*"),
   (wholeWord "UNION", "UNION"), (wholeWord "INTO", "INTO"),
   (wordBefore "LOAD_FILE" '(', "LOAD_FILE("), (wordBefore "SLEEP" '(', "SLEEP("),
   (wordBefore "BENCHMARK" '(', "BENCHMARK("), (wordBefore "GET_LOCK" '(', "GET_LOCK("),
   (wordBefore "RELEASE_LOCK" '(', "RELEASE_LOCK("), (Pattern.word "@@", "@@"),
   (wholeWord "INFORMATION_SCHEMA", "INFORMATION_SCHEMA"),
   (wholeWord "PERFORMANCE_SCHEMA", "PERFORMANCE_SCHEMA"),
   (wordBefore "MYSQL" '.', "MYSQL."), (wordBefore "SYS" '.', "SYS."),
   (wordBefore "EXEC" '(', "EXEC("), (wholeWord "SHUTDOWN", "SHUTDOWN"),
   (.edge :: Pattern.word "0x" ++ List.replicate 10 .hexDigit, "hex literal")]

/-- How deep in parentheses the text ends, counted from `depth`; `none` if one
is closed that is not open. -/
def depthAfter : Nat → List Char → Option Nat
  | depth, [] => some depth
  | depth, c :: r =>
    if c = '(' then depthAfter (depth + 1) r
    else if c = ')' then
      match depth with
      | 0 => none
      | d + 1 => depthAfter d r
    else depthAfter depth r

def checkFilter (filter : List Char) : Except Error Unit :=
  if maxFilterLength < filter.length then
    .error (.fragmentTooLong filter.length maxFilterLength)
  else if (Text.trim filter).isEmpty then .ok ()
  else
    let stripped := stripLiterals filter
    match filterPatterns.find? fun (p, _) => p.occurs stripped with
    | some (_, token) => .error (.forbiddenToken token)
    | none =>
      if depthAfter 0 stripped = some 0 then .ok () else .error .unbalancedParentheses

end QueryGate.Gate.Fragment
