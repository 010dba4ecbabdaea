import QueryGate.Json.Value
import QueryGate.Number.Read
/-!
# Reading JSON

A value with blanks around it and nothing else, nested no deeper than a limit.
-/

namespace QueryGate.Json

open QueryGate.Number

/-- Takes characters from the front of a text, or fails. -/
abbrev Reader (α : Type) := StateT (List Char) Option α

namespace Reader

variable {α : Type}

def isSpace (c : Char) : Bool := c == ' ' || c == '\n' || c == '\t' || c == '\r'

def skipSpaces : Reader Unit := fun s => some ((), s.dropWhile isSpace)

def next : Reader Char
  | [] => none
  | c :: r => some (c, r)

def peek : Reader (Option Char) := fun s => some (s.head?, s)

def accept (c : Char) : Reader Bool := fun s =>
  match s with
  | d :: r => if d = c then some (true, r) else some (false, s)
  | [] => some (false, [])

def require (text : List Char) : Reader Unit := fun s =>
  if text.isPrefixOf s then some ((), s.drop text.length) else none

/-! ## Numbers -/

def digits : Reader (List Char) := fun s =>
  some (s.takeWhile Char.isDigit, s.dropWhile Char.isDigit)

def digits1 : Reader (List Char) := do
  let ds ← digits
  if ds.isEmpty then failure
  return ds

end Reader

/-! ## Numbers -/

/-- Appends digits to `n` for as long as 64 bits hold it; the digits that are
left come back. -/
def gather (n : Nat) : List Char → Nat × List Char
  | [] => (n, [])
  | c :: r =>
    let more := 10 * n + digitValue c
    if more ≤ word64 then gather more r else (n, c :: r)

/-- The power of ten as a value of the format. -/
def powerOfTen (k : Nat) : Binary := Binary.round .double false (Nat.pow 10 k) 1

/-- The greatest power of ten of the format. -/
def greatestPower : Nat := 308

/-- Divides `x` by `10 ^ k`, in steps that are each rounded. -/
def divideByPower (x : Binary) (k : Nat) : Nat → Binary
  | 0 => x
  | n + 1 =>
    if k ≤ greatestPower then x.div .double (powerOfTen k)
    else divideByPower (x.div .double (powerOfTen greatestPower)) (k - greatestPower) n

/-- The value `n · 10 ^ e`: the significand is rounded, and so is every scaling of it. None
if it is beyond the format. -/
def scale (n : Nat) (e : Int) : Option Binary :=
  let x := Binary.ofInt .double n
  if e < 0 then some (divideByPower x (-e).toNat 3)
  else if e ≤ greatestPower then
    let y := x.mul .double (powerOfTen e.toNat)
    if y.isFinite then some y else none
  else if n = 0 then some x
  else none

/-- The value of a number with a fraction or an exponent. The significand is
cut after the digits that 64 bits hold. -/
def realOf (negative : Bool) (whole fraction : List Char) (exponent : Int) : Option Binary :=
  let (n, skipped) := gather 0 whole
  let (m, unread) := gather n fraction
  let taken := fraction.length - unread.length
  (scale m (exponent + skipped.length - taken)).map fun x => if negative then x.negate else x

/-- A whole number is kept as one if 64 bits hold it. Zero with a minus sign is
a real. -/
def wholeOf (negative : Bool) (whole : List Char) : Option Json :=
  let n := valueOf whole
  if negative then
    let value : Int := -(n : Int)
    if n = 0 ∨ value < least64 then (realOf true whole [] 0).map .real else some (.int value)
  else if n ≤ word64 then some (.int n)
  else (realOf false whole [] 0).map .real

namespace Reader

def exponentPart : Reader Int := do
  let negative ←
    match ← peek with
    | some '-' => do
      let _ ← next
      pure true
    | some '+' => do
      let _ ← next
      pure false
    | _ => pure false
  let n := valueOf (← digits1)
  return if negative then -(n : Int) else n

def number : Reader Json := do
  let negative ← accept '-'
  let whole ← digits1
  if 1 < whole.length ∧ whole.head? = some '0' then failure
  let fraction ← if ← accept '.' then digits1 else pure []
  let marked := (← peek).any isExponentMark
  if fraction.isEmpty ∧ !marked then
    match wholeOf negative whole with
    | some v => return v
    | none => failure
  let exponent ←
    if marked then do
      let _ ← next
      exponentPart
    else pure 0
  match realOf negative whole fraction exponent with
  | some x => return .real x
  | none => failure

/-! ## Texts -/

def hexValue (c : Char) : Option Nat :=
  if c.isDigit then some (c.toNat - 48)
  else if 'a' ≤ c ∧ c ≤ 'f' then some (c.toNat - 87)
  else if 'A' ≤ c ∧ c ≤ 'F' then some (c.toNat - 55)
  else none

/-- Four hexadecimal digits. -/
def hex4 (s : List Char) : Option (Nat × List Char) :=
  match s with
  | a :: b :: c :: d :: r => do
    return ((← hexValue a) * 4096 + (← hexValue b) * 256 + (← hexValue c) * 16 + (← hexValue d), r)
  | _ => none

/-- The character of a numeric escape, after its `u`. A high surrogate has to be
followed by the escape of a low one. -/
def unicodeEscape (s : List Char) : Option (Char × List Char) := do
  let (n, r) ← hex4 s
  if n < 0xD800 ∨ 0xDFFF < n then return (.ofNat n, r)
  else if n < 0xDC00 then
    match r with
    | '\\' :: 'u' :: r => do
      let (m, r) ← hex4 r
      if 0xDC00 ≤ m ∧ m ≤ 0xDFFF then
        return (.ofNat (0x10000 + (n - 0xD800) * 1024 + (m - 0xDC00)), r)
      else none
    | _ => none
  else none

def simpleEscape (c : Char) : Option Char :=
  match c with
  | '"' | '\\' | '/' => some c
  | 'b' => some (.ofNat 8)
  | 'f' => some (.ofNat 12)
  | 'n' => some '\n'
  | 'r' => some '\r'
  | 't' => some '\t'
  | _ => none

/-- The content of a quoted text after its opening quote, in reverse before it
`read`. Reads at most `n` characters. -/
def textTail : Nat → List Char → Reader String
  | 0, _ => failure
  | n + 1, before => fun s =>
    match s with
    | [] => none
    | c :: r =>
      if c = '"' then some (.ofList before.reverse, r)
      else if c = '\\' then
        match r with
        | [] => none
        | d :: r =>
          if d = 'u' then
            match unicodeEscape r with
            | some (c, r) => textTail n (c :: before) r
            | none => none
          else
            match simpleEscape d with
            | some c => textTail n (c :: before) r
            | none => none
      else if c.toNat < 32 then none
      else textTail n (c :: before) r

def quotedText : Reader String := fun s =>
  match s with
  | '"' :: r => textTail (r.length + 1) [] r
  | _ => none

/-! ## Values -/

variable {α : Type}

/-- Reads `element` after every comma, up to the closing mark; at most `n` of them. -/
def elements (element : Reader α) (close : Char) : Nat → Reader (List α)
  | 0 => failure
  | n + 1 => do
    skipSpaces
    let a ← element
    skipSpaces
    if ← accept ',' then return a :: (← elements element close n)
    else if ← accept close then return [a]
    else failure

/-- Elements between an opening mark that is read already and a closing one. -/
def enclosed (element : Reader α) (close : Char) : Reader (List α) := do
  skipSpaces
  if ← accept close then return []
  else fun s => elements element close s.length s

def field (value : Reader Json) : Reader (String × Json) := do
  let key ← quotedText
  skipSpaces
  require [':']
  skipSpaces
  return (key, ← value)

/-- A value with at most `depth` lists and objects around any part of it. -/
def value (depth : Nat) : Reader Json := do
  match ← peek with
  | some 'n' =>
    require "null".toList
    return .null
  | some 't' =>
    require "true".toList
    return .bool true
  | some 'f' =>
    require "false".toList
    return .bool false
  | some '"' => return .text (← quotedText)
  | some '[' =>
    let _ ← next
    match depth with
    | 0 => failure
    | d + 1 => return .list (← enclosed (value d) ']')
  | some '\x7b' =>
    let _ ← next
    match depth with
    | 0 => failure
    | d + 1 => return .ofFields (← enclosed (field (value d)) '\x7d')
  | _ => number

end Reader

def maxDepth : Nat := 127

def read? (s : List Char) : Option Json :=
  let whole : Reader Json := do
    Reader.skipSpaces
    let v ← Reader.value maxDepth
    Reader.skipSpaces
    return v
  match whole s with
  | some (v, []) => some v
  | _ => none

end QueryGate.Json
