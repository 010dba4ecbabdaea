import QueryGate.Number.Shortest
/-!
# Numbers as text

How binary numbers and counts are written.
-/

namespace QueryGate.Number

def digitsOf (n : Nat) : List Char := Nat.toDigits 10 n

def zeros (n : Nat) : List Char := List.replicate n '0'

/-- A whole number as text. -/
def intText (n : Int) : List Char :=
  if n < 0 then '-' :: digitsOf n.natAbs else digitsOf n.natAbs

def signText (negative : Bool) : List Char := if negative then ['-'] else []

/-- Without an exponent. `point` is what follows a number without fraction. -/
def positional (point : List Char) (d : Decimal) : List Char :=
  let ds := d.text
  if 0 ≤ d.exponent then ds ++ zeros d.exponent.toNat ++ point
  else
    let places := (-d.exponent).toNat
    if places < ds.length then ds.take (ds.length - places) ++ '.' :: ds.drop (ds.length - places)
    else '0' :: '.' :: zeros (places - ds.length) ++ ds

/-- One digit before the point, and an exponent with its sign. -/
def scientific (d : Decimal) : List Char :=
  let mantissa :=
    match d.text with
    | [] => []
    | [c] => [c]
    | c :: r => c :: '.' :: r
  let e := d.leading
  mantissa ++ 'e' :: (if e < 0 then '-' else '+') :: digitsOf e.natAbs

/-- Fewest digits; positional from `0.00001` up to below `10 ^ 16`, and always
with a fraction there. -/
def doubleText : Binary → List Char
  | .finite s m q =>
    let d := shortest .double evenDigit m q
    signText s ++
      if -5 ≤ d.leading ∧ d.leading ≤ 15 then positional ['.', '0'] d else scientific d
  | .infinite s => signText s ++ ['i', 'n', 'f']
  | .nan => ['N', 'a', 'N']

/-- Fewest digits, never with an exponent. -/
def singleText : Binary → List Char
  | .finite s m q => signText s ++ positional [] (shortest .single greaterDigit m q)
  | .infinite s => signText s ++ ['i', 'n', 'f']
  | .nan => ['N', 'a', 'N']

/-- Two places after the point. -/
def hundredths (x : Binary) : List Char :=
  let n := x.times 2
  digitsOf (n / 100) ++ '.' :: Nat.digitChar (n / 10 % 10) :: [Nat.digitChar (n % 10)]

end QueryGate.Number
