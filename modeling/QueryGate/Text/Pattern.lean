import QueryGate.Text.Blank
import QueryGate.Text.Case
import QueryGate.Text.WordChar
/-!
# Word patterns

A pattern is a list of pieces, and a piece is a step from one position of a
text to the positions it can end at. Letters match without regard to case.
-/

namespace QueryGate.Text

/-- A position in a text: the character before it and the text after it. -/
structure Spot where
  before : Option Char
  rest : List Char
  deriving Repr, DecidableEq

inductive Piece where
  /-- One character, in either case. -/
  | char (c : Char)
  /-- One blank. -/
  | blank
  /-- Any number of blanks. -/
  | blanks
  /-- The end or the beginning of a word. -/
  | edge
  /-- A hexadecimal digit. -/
  | hexDigit
  deriving Repr, DecidableEq

abbrev Pattern := List Piece

namespace Piece

/-- The character after a spot, if it passes the test, and the spot behind it. -/
def one (test : Char → Bool) (s : Spot) : List Spot :=
  match s.rest with
  | [] => []
  | c :: r => if test c then [⟨some c, r⟩] else []

/-- The spots behind zero or more blanks. -/
def blankRuns (before : Option Char) : List Char → List Spot
  | [] => [⟨before, []⟩]
  | c :: r => ⟨before, c :: r⟩ :: if isBlank c then blankRuns (some c) r else []

def isHexDigit (c : Char) : Bool :=
  c.isDigit || ('a' ≤ c && c ≤ 'f') || ('A' ≤ c && c ≤ 'F')

def ends (p : Piece) (s : Spot) : List Spot :=
  match p with
  | char a => one (sameLetter a) s
  | blank => one isBlank s
  | blanks => blankRuns s.before s.rest
  | edge => if s.before.any isWordChar != s.rest.head?.any isWordChar then [s] else []
  | hexDigit => one isHexDigit s

end Piece

namespace Pattern

def word (s : String) : Pattern := s.toList.map .char

/-- One or more blanks. -/
def gap : Pattern := [.blank, .blanks]

/-- Where a match that begins at `s` can end. -/
def ends (p : Pattern) (s : Spot) : List Spot :=
  p.foldl (fun spots piece => spots.flatMap piece.ends) [s]

/-- Whether the pattern matches at the beginning of the text. -/
def matchesStart (p : Pattern) (text : List Char) : Bool := !(p.ends ⟨none, text⟩).isEmpty

/-- The text before the first match that begins after `before`, and the text
behind that match. -/
def splitAfter (p : Pattern) (before : Option Char) : List Char → Option (List Char × List Char)
  | [] => (p.ends ⟨before, []⟩).head?.map fun s => ([], s.rest)
  | c :: r =>
    match (p.ends ⟨before, c :: r⟩).head? with
    | some s => some ([], s.rest)
    | none => (splitAfter p (some c) r).map fun (a, b) => (c :: a, b)

def split (p : Pattern) (text : List Char) : Option (List Char × List Char) :=
  p.splitAfter none text

/-- Whether the pattern matches somewhere in the text. -/
def occurs (p : Pattern) (text : List Char) : Bool := (p.split text).isSome

end Pattern

end QueryGate.Text
