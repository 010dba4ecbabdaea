import QueryGate.Text.Blank
import QueryGate.Text.Case
/-!
# Tokens

The lexical units of a statement. `Token.scan` reads the unit at the front of a
text and says how long it is; `lexemes` cuts a text into units that each carry
the characters they were read from, so nothing of a text is lost.
-/

namespace QueryGate.Sql

/-- How a quoted text is written. -/
inductive TextForm where
  /-- A text between single quotes. -/
  | single
  /-- A text between double quotes. -/
  | double
  /-- A national text, `N'…'`. -/
  | national
  /-- Bytes, `X'…'` or `0x…`. -/
  | hex
  /-- Bits, `B'…'` or `B"…"`. -/
  | bits
  deriving Repr, DecidableEq

inductive Token where
  /-- A blank between units. -/
  | blank
  | comment
  /-- A name. Its `key` is its capital form, by which keywords are known; a name
  in backticks has none. -/
  | word (text : List Char) (key : Option String)
  | number (text : List Char)
  | text (form : TextForm) (content : List Char)
  | placeholder (digits : List Char)
  | symbol (text : String)
  deriving Repr, DecidableEq

/-- Why a text cannot be read. -/
inductive Fault where
  /-- A literal or a comment that nothing closes. -/
  | unclosed
  /-- Something else than the grammar has there. -/
  | unexpected
  /-- Nesting beyond the depth limit. -/
  | tooDeep
  deriving Repr, DecidableEq, Inhabited

def Fault.message : Fault → String
  | unclosed => "unterminated literal or comment"
  | unexpected => "unexpected input"
  | tooDeep => "nesting too deep"

/-! ## Character classes -/

/-- What an unquoted name may begin with. -/
def isNameStart (c : Char) : Bool :=
  c.isAlpha || c == '_' || c == '$' || c == '@' || 128 ≤ c.toNat

def isNamePart (c : Char) : Bool := isNameStart c || c.isDigit

namespace Token

def ofName (text : List Char) : Token := .word text (some (.ofList (Text.upper text)))

/-! ## Quoted texts -/

/-- What a backslash and a character stand for. A percent sign and an underscore
keep the backslash, for `LIKE`. -/
def escaped (c : Char) : List Char :=
  if c = '%' || c = '_' then ['\\', c]
  else if c = '0' then [Char.ofNat 0]
  else if c = 'a' then [Char.ofNat 7]
  else if c = 'b' then [Char.ofNat 8]
  else if c = 'f' then [Char.ofNat 12]
  else if c = 'n' then ['\n']
  else if c = 'r' then ['\r']
  else if c = 't' then ['\t']
  else if c = 'Z' then [Char.ofNat 26]
  else [c]

/-- The content of a literal after its opening mark, and the number of
characters up to and with the closing mark. -/
def closed (mark : Char) (escapes : Bool) : List Char → Option (List Char × Nat)
  | [] => none
  | [c] => if c = mark then some ([], 1) else none
  | c :: d :: r =>
    if escapes ∧ c = '\\' then (closed mark escapes r).map fun (s, n) => (escaped d ++ s, n + 2)
    else if c = mark then
      if d = mark then (closed mark escapes r).map fun (s, n) => (c :: s, n + 2) else some ([], 1)
    else (closed mark escapes (d :: r)).map fun (s, n) => (c :: s, n + 1)

/-- A literal whose opening mark is the last of `before` characters behind the
first one. -/
def quoted (form : TextForm) (mark : Char) (escapes : Bool) (before : Nat) (rest : List Char) :
    Except Fault (Token × Nat) :=
  match closed mark escapes rest with
  | some (content, n) => .ok (.text form content, before + n)
  | none => .error .unclosed

/-! ## Comments -/

/-- Characters up to and with the end of the line. -/
def lineLength : List Char → Nat
  | [] => 0
  | c :: r => if c = '\n' then 1 else lineLength r + 1

/-- Characters up to and with the end of a block comment. -/
def blockLength : List Char → Option Nat
  | [] => none
  | [_] => none
  | c :: d :: r => if c = '*' ∧ d = '/' then some 2 else (blockLength (d :: r)).map (· + 1)

/-! ## Numbers -/

def digitsLength (s : List Char) : Nat := (s.takeWhile Char.isDigit).length

/-- Length of an exponent at the front of the text, 0 if there is none. -/
def exponentLength (s : List Char) : Nat :=
  match s with
  | [] => 0
  | e :: r =>
    if e = 'e' || e = 'E' then
      let sign := match r with
        | c :: _ => if c = '+' || c = '-' then 1 else 0
        | [] => 0
      let digits := digitsLength (r.drop sign)
      if digits = 0 then 0 else 1 + sign + digits
    else 0

/-- A name behind a period, a number otherwise. -/
def digitsToken (afterPeriod : Bool) (text : List Char) : Token :=
  if afterPeriod then ofName text else .number text

/-- The unit that begins with `n` characters of a number and may go on with an
exponent or as a name. A name does not go on with the letter of an exponent, and
an `L` behind an exponent says that the number is a long one. -/
def mantissaTail (afterPeriod : Bool) (s : List Char) (n : Nat) : Token × Nat :=
  let exponent := exponentLength (s.drop n)
  let after := (s.drop n).head?
  if exponent > 0 then
    let long := if !afterPeriod && (s.drop (n + exponent)).head? = some 'L' then 1 else 0
    (digitsToken afterPeriod (s.take (n + exponent)), n + exponent + long)
  else if after = some 'e' || after = some 'E' then (digitsToken afterPeriod (s.take n), n)
  else
    let tail := ((s.drop n).takeWhile isNamePart).length
    if tail = 0 then (.number (s.take n), n) else (ofName (s.take (n + tail)), n + tail)

/-- A number, a dot, or a name that begins with digits. `s` is the whole text
at the number. -/
def numeral (afterWord afterPeriod : Bool) (s : List Char) : Token × Nat :=
  let whole := digitsLength s
  let rest := s.drop whole
  if whole = 1 ∧ s.head? = some '0' ∧ rest.head? = some 'x' then
    let hex := (rest.drop 1).takeWhile fun c =>
      c.isDigit || ('a' ≤ c && c ≤ 'f') || ('A' ≤ c && c ≤ 'F')
    (.text .hex hex, 2 + hex.length)
  else
    let point := if rest.head? = some '.' then 1 else 0
    let fraction := digitsLength (s.drop (whole + point))
    if whole = 0 ∧ afterWord ∨ whole + fraction = 0 then (.symbol ".", 1)
    else mantissaTail afterPeriod s (whole + point + fraction)

/-! ## Units -/

/-- An unquoted name of `taken` characters and the name characters behind them. -/
def name (s : List Char) (taken : Nat) : Token × Nat :=
  let n := taken + ((s.drop taken).takeWhile isNamePart).length
  (ofName (s.take n), n)

/-- Symbols of more than one character, longer ones first. -/
def longSymbols : List String :=
  ["!~~*", "->>", "<=>", "||/", "!~*", "!~~", "~~*",
   "->", "|/", "||", "=>", "==", "!=", "!!", "!~", "<=", "<>", "<<", "<@", ">=", ">>", "::", ":=",
   "&&", "^@", "~*", "~~"]

/-- The spelling of a symbol that stands for another. -/
def sameSymbol (s : String) : String := if s = "<>" then "!=" else s

def symbolAt (c : Char) (s : List Char) : Token × Nat :=
  match longSymbols.find? fun t => t.toList.isPrefixOf s with
  | some t => (.symbol (sameSymbol t), t.length)
  | none => (.symbol (.singleton c), 1)

/-- A name that begins with an at sign, or the sign itself. -/
def atSign (s : List Char) : Token × Nat :=
  match s.drop 1 with
  | [] => (.symbol "@", 1)
  | c :: r =>
    if c = '>' then (.symbol "@>", 2)
    else if c = '?' then (.symbol "@?", 2)
    else if c = '@' then
      match r with
      | [] => (.symbol "@@", 2)
      | d :: _ => if d = ' ' then (.symbol "@@", 2) else name s 3
    else if c = ' ' || c = '\'' || c = '"' || c = '\x60' then (.symbol "@", 1)
    else name s 2

/-- A letter that may introduce a quoted text. -/
def introduced (form : TextForm) (marks : List Char) (escapes : Bool) (s : List Char) :
    Except Fault (Token × Nat) :=
  match s with
  | _ :: m :: r => if marks.contains m then quoted form m escapes 2 r else .ok (name s 1)
  | _ => .ok (name s 1)

/-- The unit at the front of `c :: rest` and its length. `before` is the unit
before it. -/
def scan (before : Option Token) (c : Char) (rest : List Char) : Except Fault (Token × Nat) :=
  let s := c :: rest
  let afterWord := match before with
    | some (.word ..) => true
    | _ => false
  if c = ' ' || c = '\t' || c = '\n' then .ok (.blank, 1)
  else if c = '\r' then .ok (.blank, if rest.head? = some '\n' then 2 else 1)
  else if c = 'b' || c = 'B' then introduced .bits ['\'', '"'] false s
  else if c = 'n' || c = 'N' then introduced .national ['\''] true s
  else if c = 'x' || c = 'X' then introduced .hex ['\''] true s
  else if c = '\'' then quoted .single '\'' true 1 rest
  else if c = '"' then quoted .double '"' true 1 rest
  else if c = '\x60' then
    match closed '\x60' false rest with
    | some (content, n) => .ok (.word content none, 1 + n)
    | none => .error .unclosed
  else if c.isDigit || c = '.' then
    if c = '.' ∧ rest.head? = some '_' then
      if afterWord then .ok (.symbol ".", 1) else .error .unexpected
    else .ok (numeral afterWord (before = some (.symbol ".")) s)
  -- Two dashes need a blank behind them, or the end of the text.
  else if c = '-' ∧ rest.head? = some '-' ∧ (rest.drop 1).head?.all Text.isBlank then
    .ok (.comment, 1 + lineLength rest)
  else if c = '#' then .ok (.comment, 1 + lineLength rest)
  else if c = '/' ∧ rest.head? = some '*' then
    match blockLength (rest.drop 1) with
    | some n => .ok (.comment, 2 + n)
    | none => .error .unclosed
  else if c = '@' then .ok (atSign s)
  else if c = '?' then
    let digits := rest.takeWhile Char.isDigit
    .ok (.placeholder digits, 1 + digits.length)
  else if isNameStart c then .ok (name s 1)
  else if Text.isBlank c then .ok (.blank, 1)
  else .ok (symbolAt c s)

end Token

/-- A unit and the characters it was read from. -/
structure Lexeme where
  token : Token
  source : List Char
  deriving Repr, DecidableEq

/-- The units of a text; `before` is the unit before it. -/
def lexemesAfter (before : Option Token) (s : List Char) : Except Fault (List Lexeme) :=
  match s with
  | [] => .ok []
  | c :: rest =>
    match Token.scan before c rest with
    | .error f => .error f
    | .ok (token, n) =>
      match lexemesAfter (some token) (rest.drop (n - 1)) with
      | .error f => .error f
      | .ok more => .ok (⟨token, c :: rest.take (n - 1)⟩ :: more)
  termination_by s.length
  decreasing_by rw [List.length_drop, List.length_cons]; omega

def lexemes (s : List Char) : Except Fault (List Lexeme) := lexemesAfter none s

/-- Whether a blank or a comment comes next. -/
def atGap : List Lexeme → Bool
  | [] => false
  | l :: _ => l.token = .blank ∨ l.token = .comment

/-- The units a statement is made of: all but blanks and comments. A colon and
an at sign introduce a name only right before it, so the ones with a gap behind
them are told apart by a blank. -/
def tokens : List Lexeme → List Token
  | [] => []
  | l :: ls =>
    match l.token with
    | .blank | .comment => tokens ls
    | .symbol s =>
      .symbol (if (s = ":" ∨ s = "@") ∧ atGap ls then s ++ " " else s) :: tokens ls
    | t => t :: tokens ls

end QueryGate.Sql
