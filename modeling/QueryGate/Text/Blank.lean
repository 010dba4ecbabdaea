/-!
# Blank characters

The Unicode White_Space property, trimming, and the first word of a text.
-/

namespace QueryGate.Text

/-- The Unicode White_Space property. -/
def isBlank (c : Char) : Bool :=
  let n := c.toNat
  (9 ≤ n && n ≤ 13) || n == 0x20 || n == 0x85 || n == 0xA0 || n == 0x1680 ||
    (0x2000 ≤ n && n ≤ 0x200A) || n == 0x2028 || n == 0x2029 || n == 0x202F ||
    n == 0x205F || n == 0x3000

def trimStart (s : List Char) : List Char := s.dropWhile isBlank

def trimEnd (s : List Char) : List Char := (s.reverse.dropWhile isBlank).reverse

/-- The text without the blanks at both ends. -/
def trim (s : List Char) : List Char := trimEnd (trimStart s)

/-- The characters before the first blank, after leading blanks. -/
def firstWord (s : List Char) : List Char := (trimStart s).takeWhile (!isBlank ·)

def allBlank (s : List Char) : Bool := s.all isBlank

end QueryGate.Text
