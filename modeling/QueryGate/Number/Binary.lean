/-!
# Binary numbers

Floating-point values as exact fractions: a whole number times a power of two.
Every operation is carried out exactly and rounded once, to the nearest value
of its format, ties to even.
-/

namespace QueryGate.Number

/-- Whole quotient to the nearest, ties to even. -/
def roundDiv (num den : Nat) : Nat :=
  let q := num / den
  let r := num % den
  if den < 2 * r then q + 1
  else if 2 * r = den then q + q % 2
  else q

/-- The ratio `num / den` times `base ^ e`, as a ratio of whole numbers. -/
def scaled (base num den : Nat) (e : Int) : Nat × Nat :=
  if 0 ≤ e then (num * base.pow e.toNat, den) else (num, den * base.pow (-e).toNat)

/-- A format: how many bits a value has, and the smallest and greatest power of
two its last bit may stand for. -/
structure Format where
  precision : Nat
  least : Int
  greatest : Int
  deriving Repr, DecidableEq

def Format.double : Format := ⟨53, -1074, 971⟩

def Format.single : Format := ⟨24, -149, 104⟩

inductive Binary where
  /-- The number `m · 2 ^ q`, negated or not. -/
  | finite (negative : Bool) (m : Nat) (q : Int)
  | infinite (negative : Bool)
  | nan
  deriving Repr, DecidableEq, Inhabited

namespace Binary

def zero (negative : Bool) : Binary := finite negative 0 0

def isFinite : Binary → Bool
  | finite .. => true
  | _ => false

def negate : Binary → Binary
  | finite s m q => finite (!s) m q
  | infinite s => infinite (!s)
  | nan => nan

/-- The greatest `e` with `2 ^ e ≤ num / den`, for positive `num` and `den`. -/
def exponent (num den : Nat) : Int :=
  let e : Int := Int.ofNat num.log2 - Int.ofNat den.log2
  let (a, b) := scaled 2 num den (-e)
  if a < b then e - 1 else e

/-- The value of the format nearest to `num / den`. -/
def round (f : Format) (negative : Bool) (num den : Nat) : Binary :=
  if num = 0 then zero negative
  else
    let q := max (exponent num den - (f.precision - 1)) f.least
    let (a, b) := scaled 2 num den (-q)
    let m := roundDiv a b
    let (m, q) := if m = Nat.pow 2 f.precision then (m / 2, q + 1) else (m, q)
    if f.greatest < q then infinite negative
    else if m = 0 then zero negative
    else finite negative m q

/-- The value of the format nearest to `m · 2 ^ q`. -/
def roundScaled (f : Format) (negative : Bool) (m : Nat) (q : Int) : Binary :=
  let (num, den) := scaled 2 m 1 q
  round f negative num den

def ofInt (f : Format) (n : Int) : Binary := round f (n < 0) n.natAbs 1

/-- The value in another format. -/
def convert (f : Format) : Binary → Binary
  | finite s m q => roundScaled f s m q
  | x => x

/-- Product of finite values. -/
def mul (f : Format) : Binary → Binary → Binary
  | finite s m q, finite s' m' q' => roundScaled f (s != s') (m * m') (q + q')
  | _, _ => nan

/-- Quotient of finite values; the divisor is not zero. -/
def div (f : Format) : Binary → Binary → Binary
  | finite s m q, finite s' m' q' =>
    if m' = 0 then nan
    else
      let (num, den) := scaled 2 m m' (q - q')
      round f (s != s') num den
  | _, _ => nan

/-- Whether the value has no fractional part. -/
def isWhole : Binary → Bool
  | finite _ m q => 0 ≤ q || m % Nat.pow 2 (-q).toNat == 0
  | _ => false

/-- Whether the size of the value is at least `n`. -/
def reaches (n : Nat) : Binary → Bool
  | finite _ m q =>
    let (num, den) := scaled 2 m 1 q
    n * den ≤ num
  | infinite _ => true
  | nan => false

/-- The value times `10 ^ places`, to the nearest whole number, ties to even. -/
def times (x : Binary) (places : Nat) : Nat :=
  match x with
  | finite _ m q =>
    let (num, den) := scaled 2 (m * Nat.pow 10 places) 1 q
    roundDiv num den
  | _ => 0

end Binary

end QueryGate.Number
