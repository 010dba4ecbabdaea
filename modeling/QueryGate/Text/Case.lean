/-!
# Letter case

Capital and small forms as far as a comparison with ASCII words can see them:
a character is mapped only if the mapped form has an ASCII letter in it, and
all others stand for themselves.
-/

namespace QueryGate.Text

/-- Capital forms outside ASCII that contain an ASCII letter. -/
def capitalForms : List (Char × List Char) :=
  [('ß', ['S', 'S']), ('ı', ['I']), ('ŉ', ['ʼ', 'N']), ('ſ', ['S']), ('ǰ', ['J', '\u030C']),
   ('ẖ', ['H', '\u0331']), ('ẗ', ['T', '\u0308']), ('ẘ', ['W', '\u030A']),
   ('ẙ', ['Y', '\u030A']), ('ẚ', ['A', 'ʾ']), ('ﬀ', ['F', 'F']), ('ﬁ', ['F', 'I']),
   ('ﬂ', ['F', 'L']), ('ﬃ', ['F', 'F', 'I']), ('ﬄ', ['F', 'F', 'L']), ('ﬅ', ['S', 'T']),
   ('ﬆ', ['S', 'T'])]

/-- Small forms outside ASCII that contain an ASCII letter. -/
def smallForms : List (Char × List Char) :=
  [('\u212A', ['k']), ('İ', ['i', '\u0307'])]

def upperChar (c : Char) : List Char :=
  if c.toNat < 128 then [c.toUpper] else (capitalForms.lookup c).getD [c]

def lowerChar (c : Char) : List Char :=
  if c.toNat < 128 then [c.toLower] else (smallForms.lookup c).getD [c]

def upper (s : List Char) : List Char := s.flatMap upperChar

def lower (s : List Char) : List Char := s.flatMap lowerChar

/-- Equality of characters up to simple case folding, for an ASCII `a`: next to
the two ASCII cases, the long s is an s and the Kelvin sign is a k. -/
def sameLetter (a c : Char) : Bool :=
  a.toLower == c.toLower || (a.toLower == 's' && c == 'ſ') || (a.toLower == 'k' && c == '\u212A')

/-- Equality up to the case of ASCII letters. -/
def sameAscii (a b : List Char) : Bool := a.map Char.toLower == b.map Char.toLower

end QueryGate.Text
