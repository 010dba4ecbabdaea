/-!
# UTF-8

Bytes to characters, with every maximal ill-formed part found apart.
-/

namespace QueryGate.Text.Utf8

def encode (s : List Char) : List UInt8 := s.flatMap String.utf8EncodeChar

/-- A character under way: the bits read so far, how many bytes are missing,
and the range the next byte has to be in. -/
structure Pending where
  value : Nat
  missing : Nat
  low : UInt8
  high : UInt8
  deriving Repr, DecidableEq

/-- What the first byte of a character announces. -/
def start (b : UInt8) : List (Option Char) × Option Pending :=
  let n := b.toNat
  if n < 0x80 then ([some (Char.ofNat n)], none)
  else if n < 0xC2 then ([none], none)
  else if n < 0xE0 then ([], some ⟨n - 0xC0, 1, 0x80, 0xBF⟩)
  else if n == 0xE0 then ([], some ⟨0, 2, 0xA0, 0xBF⟩)
  else if n == 0xED then ([], some ⟨0xD, 2, 0x80, 0x9F⟩)
  else if n < 0xF0 then ([], some ⟨n - 0xE0, 2, 0x80, 0xBF⟩)
  else if n == 0xF0 then ([], some ⟨0, 3, 0x90, 0xBF⟩)
  else if n == 0xF4 then ([], some ⟨4, 3, 0x80, 0x8F⟩)
  else if n < 0xF4 then ([], some ⟨n - 0xF0, 3, 0x80, 0xBF⟩)
  else ([none], none)

/-- One byte: what is finished with it, and what is under way after it. A byte
that cannot continue the character under way ends an ill-formed part. -/
def step : Option Pending → UInt8 → List (Option Char) × Option Pending
  | none, b => start b
  | some p, b =>
    if p.low ≤ b ∧ b ≤ p.high then
      let value := p.value * 64 + (b.toNat - 0x80)
      if p.missing ≤ 1 then ([some (Char.ofNat value)], none)
      else ([], some ⟨value, p.missing - 1, 0x80, 0xBF⟩)
    else
      let (out, next) := start b
      (none :: out, next)

def read (pending : Option Pending) : List UInt8 → List (Option Char)
  | [] => if pending.isSome then [none] else []
  | b :: bs =>
    let (out, next) := step pending b
    out ++ read next bs

/-- The characters of the bytes; `none` for each maximal ill-formed part. -/
def characters (bytes : List UInt8) : List (Option Char) := read none bytes

/-- The text with U+FFFD for each ill-formed part. -/
def decodeLossy (bytes : List UInt8) : List Char :=
  (characters bytes).map (·.getD '\uFFFD')

/-- The text, if all of the bytes are well-formed. -/
def decode? (bytes : List UInt8) : Option (List Char) := (characters bytes).mapM id

end QueryGate.Text.Utf8
