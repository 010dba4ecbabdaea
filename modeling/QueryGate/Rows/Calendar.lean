import QueryGate.Number.Read
import QueryGate.Number.Text
import QueryGate.Text.Blank
/-!
# Dates and times

Dates of the Gregorian calendar and times of day, read from text with some
freedom and written in one form.
-/

namespace QueryGate

structure Date where
  year : Int
  month : Nat
  day : Nat
  deriving Repr, DecidableEq

/-- A time of day; the second may be a leap second. -/
structure Time where
  hour : Nat
  minute : Nat
  second : Nat
  nanosecond : Nat
  deriving Repr, DecidableEq

namespace Calendar

/-! ## Reading -/

/-- Up to `n` digits, at least one, after blanks. -/
def number (n : Nat) (s : List Char) : Option (Nat × List Char) :=
  let s := Text.trimStart s
  let ds := (s.take n).takeWhile Char.isDigit
  if ds.isEmpty then none else some (Number.valueOf ds, s.drop ds.length)

/-- A number right at the beginning of the text. -/
def numberAtOnce (s : List Char) : Option (Nat × List Char) :=
  if s.head?.any Char.isDigit then number s.length s else none

/-- A year of four digits, or of any number of them after a sign. -/
def year (s : List Char) : Option (Int × List Char) :=
  let s := Text.trimStart s
  match s with
  | '-' :: r => (numberAtOnce r).map fun (n, r) => (-(n : Int), r)
  | '+' :: r => (numberAtOnce r).map fun (n, r) => ((n : Int), r)
  | _ => (number 4 s).map fun (n, r) => ((n : Int), r)

def mark (c : Char) (s : List Char) : Option (List Char) :=
  match s with
  | d :: r => if d = c then some r else none
  | [] => none

/-- A fraction of a second in nanoseconds; digits beyond the ninth are dropped. -/
def fraction (s : List Char) : Option (Nat × List Char) :=
  match s with
  | '.' :: r =>
    let ds := r.takeWhile Char.isDigit
    if ds.isEmpty then none
    else
      let kept := ds.take 9
      some (Number.valueOf kept * Nat.pow 10 (9 - kept.length), r.drop ds.length)
  | _ => some (0, s)

def isLeapYear (y : Int) : Bool := y % 4 == 0 && (y % 100 != 0 || y % 400 == 0)

def daysIn (y : Int) (month : Nat) : Nat :=
  if month = 2 then if isLeapYear y then 29 else 28
  else if [4, 6, 9, 11].contains month then 30
  else 31

/-- Years a date may have. -/
def leastYear : Int := -262143
def greatestYear : Int := 262142

def Date.isValid (d : Date) : Bool :=
  leastYear ≤ d.year && d.year ≤ greatestYear && 1 ≤ d.month && d.month ≤ 12 && 1 ≤ d.day &&
    d.day ≤ daysIn d.year d.month

def Time.isValid (t : Time) : Bool := t.hour ≤ 23 && t.minute ≤ 59 && t.second ≤ 60

def datePart (s : List Char) : Option (Date × List Char) := do
  let (y, s) ← year s
  let (m, s) ← number 2 (← mark '-' s)
  let (d, s) ← number 2 (← mark '-' s)
  let date : Date := ⟨y, m, d⟩
  if Date.isValid date then some (date, s) else none

def timePart (s : List Char) : Option (Time × List Char) := do
  let (h, s) ← number 2 s
  let (m, s) ← number 2 (← mark ':' s)
  let (sec, s) ← number 2 (← mark ':' s)
  let (nano, s) ← fraction s
  let time : Time := ⟨h, m, sec, nano⟩
  if Time.isValid time then some (time, s) else none

/-- The value, if nothing is left of the text. -/
def whole {α : Type} : Option (α × List Char) → Option α
  | some (a, []) => some a
  | _ => none

def readDate (s : List Char) : Option Date := whole (datePart s)

def readTime (s : List Char) : Option Time := whole (timePart s)

/-- A date and a time; blanks between them may be left out. -/
def readDateTime (s : List Char) : Option (Date × Time) := do
  let (d, s) ← datePart s
  let (t, s) ← timePart s
  if s.isEmpty then some (d, t) else none

/-! ## Writing -/

def padded (n width : Nat) : List Char :=
  let ds := Number.digitsOf n
  Number.zeros (width - ds.length) ++ ds

def yearText (y : Int) : List Char :=
  if 0 ≤ y ∧ y ≤ 9999 then padded y.toNat 4
  else (if y < 0 then '-' else '+') :: padded y.natAbs 4

def dateText (d : Date) : List Char :=
  yearText d.year ++ '-' :: padded d.month 2 ++ '-' :: padded d.day 2

/-- The fraction in as many groups of three digits as it needs. -/
def fractionText (nano : Nat) : List Char :=
  if nano = 0 then []
  else if nano % 1000000 = 0 then '.' :: padded (nano / 1000000) 3
  else if nano % 1000 = 0 then '.' :: padded (nano / 1000) 6
  else '.' :: padded nano 9

def timeText (t : Time) : List Char :=
  padded t.hour 2 ++ ':' :: padded t.minute 2 ++ ':' :: padded t.second 2 ++
    fractionText t.nanosecond

end Calendar

end QueryGate
