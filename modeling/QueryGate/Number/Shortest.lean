import QueryGate.Number.Binary
/-!
# Shortest digits

The decimal number with the fewest digits that reads back as a given binary
value and, of those, the one nearest to it.
-/

namespace QueryGate.Number

/-- The number `digits · 10 ^ exponent`. -/
structure Decimal where
  digits : Nat
  exponent : Int
  deriving Repr, DecidableEq

namespace Decimal

/-- The digits as text. -/
def text (d : Decimal) : List Char := Nat.toDigits 10 d.digits

/-- The power of ten the first digit stands for. -/
def leading (d : Decimal) : Int := d.exponent + (d.text.length - 1 : Int)

/-- Without zeros at the end of its digits; at most `n` are removed. -/
def trimmed : Nat → Decimal → Decimal
  | 0, d => d
  | n + 1, d =>
    if d.digits ≠ 0 ∧ d.digits % 10 = 0 then trimmed n ⟨d.digits / 10, d.exponent + 1⟩ else d

end Decimal

/-- The numbers that read as a value, all in units of `2 ^ unit`. -/
structure Interval where
  low : Nat
  value : Nat
  high : Nat
  unit : Int
  /-- Whether the ends belong to it. -/
  closed : Bool
  deriving Repr, DecidableEq

/-- The numbers nearer to `m · 2 ^ q` than to its neighbours. The neighbour
below a power of two is only half as far away. -/
def Interval.around (f : Format) (m : Nat) (q : Int) : Interval :=
  let below := if m = Nat.pow 2 (f.precision - 1) ∧ f.least < q then 1 else 2
  ⟨4 * m - below, 4 * m, 4 * m + 2, q - 2, m % 2 == 0⟩

/-- The number `n · 2 ^ unit / 10 ^ k` as a ratio. -/
def tenths (n : Nat) (unit k : Int) : Nat × Nat :=
  let (num, den) := scaled 2 n 1 unit
  scaled 10 num den (-k)

namespace Interval

def contains (i : Interval) (d k : Int) : Bool :=
  let (lowNum, lowDen) := tenths i.low i.unit k
  let (highNum, highDen) := tenths i.high i.unit k
  if i.closed then lowNum ≤ d * lowDen && d * highDen ≤ highNum
  else lowNum < d * lowDen && d * highDen < highNum

/-- The multiple of `10 ^ k` in the interval that is nearest to the value. Of
two at the same distance `up` says which. -/
def nearest (i : Interval) (up : Nat → Bool) (k : Int) : Option Nat :=
  let (num, den) := tenths i.value i.unit k
  let d := num / den
  let r := num % den
  match i.contains d k, i.contains (d + 1) k with
  | true, false => some d
  | false, true => some (d + 1)
  | true, true =>
    if 2 * r < den then some d
    else if den < 2 * r then some (d + 1)
    else some (if up d then d + 1 else d)
  | false, false => none

/-- The first hit on grids that get finer by ten from `k` down. -/
def search (i : Interval) (up : Nat → Bool) : Nat → Int → Decimal
  | 0, k => ⟨(i.nearest up k).getD 0, k⟩
  | n + 1, k =>
    match i.nearest up k with
    | some d => ⟨d, k⟩
    | none => search i up n (k - 1)

end Interval

/-- The least `k` with `num / den < 10 ^ k`, searched upwards from `k`. -/
def magnitude (num den : Nat) : Nat → Int → Int
  | 0, k => k
  | n + 1, k =>
    let (a, b) := scaled 10 num den (-k)
    if a < b then k else magnitude num den n (k + 1)

/-- Fewest digits for `m · 2 ^ q`. -/
def shortest (f : Format) (up : Nat → Bool) (m : Nat) (q : Int) : Decimal :=
  if m = 0 then ⟨0, 0⟩
  else
    let (num, den) := scaled 2 m 1 q
    let twos := Binary.exponent num den
    -- Ten has more than three bits and fewer than four.
    let guess := if 0 ≤ twos then twos / 4 else twos / 3
    let k := magnitude num den (twos.natAbs + 4) guess
    ((Interval.around f m q).search up 20 k).trimmed 20

/-- Of two decimals at the same distance, the even one. -/
def evenDigit (d : Nat) : Bool := d % 2 == 1

/-- Of two decimals at the same distance, the greater. -/
def greaterDigit (_ : Nat) : Bool := true

end QueryGate.Number
