import QueryGate.Number.Read
import QueryGate.Sql.Keyword
import QueryGate.Sql.Tree
/-!
# Reading units

A reader takes units from the front of a list. The readers of expressions,
queries and statements call each other; `Grammar` holds the ones that stand one
level deeper, so that every production is a plain function of it.
-/

namespace QueryGate.Sql

/-- Takes units from the front of a list, or fails. -/
abbrev Reader (α : Type) := StateT (List Token) (Except Fault) α

namespace Token

/-- Whether the unit is the keyword `k`. -/
def isKey (t : Token) (k : String) : Bool :=
  match t with
  | .word _ (some key) => key == k
  | _ => false

/-- Whether the unit is a word that is no keyword. -/
def isPlain : Token → Bool
  | .word _ key => key.all fun k => !keywords.contains k
  | _ => false

/-- The unit as a part of a name. -/
def ident? : Token → Option Ident
  | .word letters key => some ⟨letters, key.isNone⟩
  | .text .single content | .text .double content => some ⟨content, true⟩
  | _ => none

end Token

namespace Reader

variable {α β : Type}

def fail : Reader α := fun _ => .error .unexpected

/-- The units not read yet. -/
def rest : Reader (List Token) := fun ts => .ok (ts, ts)

def peek : Reader (Option Token) := fun ts => .ok (ts.head?, ts)

/-- The next unit. -/
def next : Reader Token
  | [] => .error .unexpected
  | t :: ts => .ok (t, ts)

/-- Whether the next units are the given keywords. -/
def areKeys : List String → List Token → Bool
  | [], _ => true
  | _ :: _, [] => false
  | k :: ks, t :: ts => t.isKey k && areKeys ks ts

/-- Reads the keywords if they come next, and says whether they did. -/
def accept (ks : List String) : Reader Bool := fun ts =>
  if areKeys ks ts then .ok (true, ts.drop ks.length) else .ok (false, ts)

/-- Reads whichever of the keywords comes next. -/
def acceptOne (ks : List String) : Reader (Option String) := fun ts =>
  match ts with
  | [] => .ok (none, [])
  | t :: r =>
    match ks.find? t.isKey with
    | some k => .ok (some k, r)
    | none => .ok (none, ts)

def require (ks : List String) : Reader Unit := fun ts =>
  if areKeys ks ts then .ok ((), ts.drop ks.length) else .error .unexpected

def requireOne (ks : List String) : Reader String := do
  match ← acceptOne ks with
  | some k => return k
  | none => fail

def acceptSymbol (s : String) : Reader Bool := fun ts =>
  match ts with
  | .symbol x :: r => if x = s then .ok (true, r) else .ok (false, ts)
  | _ => .ok (false, ts)

def requireSymbol (s : String) : Reader Unit := fun ts =>
  match ts with
  | .symbol x :: r => if x = s then .ok ((), r) else .error .unexpected
  | _ => .error .unexpected

/-- Reads the symbol, whether a gap follows it or not. -/
def acceptLoose (s : String) : Reader Bool := do
  if ← acceptSymbol s then return true else acceptSymbol (s ++ " ")

/-- Whether the next unit is the symbol. -/
def atSymbol (s : String) : Reader Bool := fun ts => .ok (ts.head? == some (.symbol s), ts)

/-- Reads `p` if it can be read here, and nothing if not. Nesting that is too
deep stays a failure. -/
def attempt (p : Reader α) : Reader (Option α) := fun ts =>
  match p ts with
  | .ok (a, r) => .ok (some a, r)
  | .error .tooDeep => .error .tooDeep
  | .error _ => .ok (none, ts)

/-- Reads `p` once, and again after every comma, at most `n` more times. -/
def separated (p : Reader α) : Nat → Reader (List α)
  | 0 => do return [← p]
  | n + 1 => do
    let a ← p
    if ← acceptSymbol "," then return a :: (← separated p n) else return [a]

/-- One or more of `p`, separated by commas. -/
def list (p : Reader α) : Reader (List α) := fun ts => separated p ts.length ts

/-- Reads `p` between parentheses. -/
def parenthesized (p : Reader α) : Reader α := do
  requireSymbol "("
  let a ← p
  requireSymbol ")"
  return a

def ident : Reader Ident := fun ts =>
  match ts with
  | [] => .error .unexpected
  | t :: r =>
    match t.ident? with
    | some i => .ok (i, r)
    | none => .error .unexpected

/-- The rest of a name after its first part. -/
def nameTail : Nat → Reader Name
  | 0 => return []
  | n + 1 => do
    if ← acceptSymbol "." then return (← ident) :: (← nameTail n) else return []

def name : Reader Name := do
  let first ← ident
  let ts ← rest
  return first :: (← nameTail ts.length)

/-- A text, or a plain name in the place of one. -/
def textOrName : Reader Unit := do
  match ← next with
  | .text .single _ | .text .double _ => return ()
  | t => if !t.isPlain then fail

/-- Texts that stand side by side are one. -/
def adjacentTexts : List Token → List Token
  | .text form content :: r =>
    if form = .single ∨ form = .double then .text form content :: adjacentTexts r else []
  | _ => []

/-- A constant. -/
def literal : Reader Expr := fun ts =>
  match ts with
  | .word text (some key) :: r =>
    if key = "TRUE" ∨ key = "FALSE" ∨ key = "NULL" then
      .ok (.literal [.word text (some key)], r)
    else .error .unexpected
  | .number n :: r => .ok (.literal [.number n], r)
  | .text form content :: r =>
    if form = .single ∨ form = .double then
      let more := adjacentTexts r
      .ok (.literal (.text form content :: more), r.drop more.length)
    else .ok (.literal [.text form content], r)
  | .placeholder d :: r => .ok (.literal [.placeholder d], r)
  | .symbol s :: t :: r =>
    if s = ":" ∨ s = "@" then
      match t with
      | .word .. | .number _ => .ok (.literal [.symbol s, t], r)
      | _ => .error .unexpected
    else .error .unexpected
  | _ => .error .unexpected

/-- A whole number up to a limit. -/
def whole (limit : Nat) : Reader Unit := do
  let .number text ← next | fail
  if (Number.readNat limit text).isNone then fail

def unsigned : Reader Unit := whole Number.word64

/-- A whole number with a sign or without one. -/
def signed : Reader Unit := do
  if !(← acceptSymbol "-") then
    let _ ← acceptSymbol "+"
  whole Number.greatest64

/-- Reads `(n)`, if it is there. -/
def optionalLength : Reader Unit := do
  if ← acceptSymbol "(" then
    unsigned
    requireSymbol ")"

/-- Reads `(n)` or `(n, m)`, if it is there; `m` may be negative. -/
def optionalScale : Reader Unit := do
  if ← acceptSymbol "(" then
    unsigned
    if ← acceptSymbol "," then signed
    requireSymbol ")"

/-- Reads `(n)` or `(n, m)`, if it is there. -/
def optionalPrecision : Reader Unit := do
  if ← acceptSymbol "(" then
    unsigned
    if ← acceptSymbol "," then unsigned
    requireSymbol ")"

/-- A name that may be left out: any word after `AS`, else a word that
`allowed` lets stand there. A quoted text is a name in either case. -/
def label? (allowed : String → Bool) : Reader (Option Ident) := do
  let explicit ← accept ["AS"]
  fun ts =>
    match ts with
    | .word text key :: r =>
      if explicit || key.all allowed then .ok (some ⟨text, key.isNone⟩, r)
      else .ok (none, ts)
    | .text .single content :: r | .text .double content :: r => .ok (some ⟨content, true⟩, r)
    | _ => if explicit then .error .unexpected else .ok (none, ts)

end Reader

/-- The readers one level deeper. -/
structure Grammar where
  /-- An expression of operators that bind more tightly than the given strength. -/
  expr : Nat → Reader Expr
  query : Reader Query
  /-- A table of a `FROM` list with its joins. -/
  table : Reader Table
  statement : Reader Statement

namespace Grammar

/-- The grammar below the depth limit. -/
def bottom : Grammar :=
  { expr := fun _ _ => .error .tooDeep
    query := fun _ => .error .tooDeep
    table := fun _ => .error .tooDeep
    statement := fun _ => .error .tooDeep }

/-- A whole expression. -/
def anyExpr (g : Grammar) : Reader Expr := g.expr 0

def exprs (g : Grammar) : Reader (List Expr) := Reader.list g.anyExpr

end Grammar

end QueryGate.Sql
