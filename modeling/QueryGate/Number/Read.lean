import QueryGate.Number.Binary
/-!
# Reading numbers

Whole numbers within bounds, and decimals to the nearest binary value.
-/

namespace QueryGate.Number

def digitValue (c : Char) : Nat := c.toNat - '0'.toNat

/-- The value of decimal digits. -/
def valueOf (digits : List Char) : Nat := digits.foldl (fun n c => 10 * n + digitValue c) 0

/-! ## Whole numbers -/

/-- One or more digits. -/
def readDigits (s : List Char) : Option Nat :=
  if s ≠ [] ∧ s.all Char.isDigit then some (valueOf s) else none

/-- Digits, with a plus sign or without, of a value up to `limit`. -/
def readNat (limit : Nat) (s : List Char) : Option Nat :=
  (readDigits (if s.head? = some '+' then s.drop 1 else s)).filter (· ≤ limit)

/-- The greatest number of 16 bits. -/
def word16 : Nat := 0xFFFF

/-- The greatest number of 32 bits. -/
def word32 : Nat := 0xFFFFFFFF

/-- The greatest number of 64 bits. -/
def word64 : Nat := 0xFFFFFFFFFFFFFFFF

/-- The greatest signed number of 64 bits. -/
def greatest64 : Nat := 0x7FFFFFFFFFFFFFFF

/-- The least signed number of 64 bits. -/
def least64 : Int := -0x8000000000000000

/-- A signed number of 64 bits. -/
def readInt (s : List Char) : Option Int :=
  match s with
  | '-' :: r => ((readDigits r).map fun n => -(n : Int)).filter (least64 ≤ ·)
  | _ => (readNat greatest64 s).map Int.ofNat

/-! ## Decimals -/

/-- The value nearest to `digits · 10 ^ e`; a power of ten beyond every value of
the format is not computed. -/
def roundDecimal (f : Format) (negative : Bool) (digits : List Char) (e : Int) : Binary :=
  let n := valueOf digits
  let reach : Int := 400 + digits.length
  if n = 0 ∨ e < -reach then .zero negative
  else if 400 < e then .infinite negative
  else
    let (num, den) := scaled 10 n 1 e
    Binary.round f negative num den

/-- An exponent: a sign that may be left out, and digits. -/
def readExponent (s : List Char) : Option Int :=
  match s with
  | '-' :: r => (readDigits r).map fun n => -(n : Int)
  | '+' :: r => (readDigits r).map Int.ofNat
  | _ => (readDigits s).map Int.ofNat

def isExponentMark (c : Char) : Bool := c == 'e' || c == 'E'

/-- Digits with a point that may stand at either end, and an exponent. -/
def readUnsigned (f : Format) (negative : Bool) (s : List Char) : Option Binary :=
  let whole := s.takeWhile Char.isDigit
  let rest := s.dropWhile Char.isDigit
  let (fraction, rest) :=
    match rest with
    | '.' :: r => (r.takeWhile Char.isDigit, r.dropWhile Char.isDigit)
    | _ => ([], rest)
  if whole.isEmpty ∧ fraction.isEmpty then none
  else
    let exponent :=
      match rest with
      | [] => some 0
      | c :: r => if isExponentMark c then readExponent r else none
    exponent.map fun e => roundDecimal f negative (whole ++ fraction) (e - fraction.length)

/-- A decimal, or the name of a value that is none, in letters of any case. -/
def readBinary (f : Format) (s : List Char) : Option Binary :=
  let (negative, body) :=
    match s with
    | '-' :: r => (true, r)
    | '+' :: r => (false, r)
    | _ => (false, s)
  let small := body.map Char.toLower
  if small = "inf".toList ∨ small = "infinity".toList then some (.infinite negative)
  else if small = "nan".toList then some .nan
  else readUnsigned f negative body

end QueryGate.Number
