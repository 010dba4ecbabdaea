import QueryGate.Text.Utf8
/-!
# Quoted literals

`stripLiterals` blanks what stands between quotes, so that a search of the
result sees live SQL only. Blanking goes byte by byte: the result is as long as
the text, and every position outside the quotes keeps its byte.
-/

namespace QueryGate.Sql

/-- The three marks that open a literal. -/
inductive Quote where
  | single
  | double
  | backtick
  deriving Repr, DecidableEq

namespace Quote

def mark : Quote → UInt8
  | single => 0x27
  | double => 0x22
  | backtick => 0x60

def ofMark? (b : UInt8) : Option Quote :=
  if b = single.mark then some single
  else if b = double.mark then some double
  else if b = backtick.mark then some backtick
  else none

/-- Whether a backslash escapes the next character. -/
def escapes : Quote → Bool
  | backtick => false
  | _ => true

end Quote

/-- Where a byte stands: in live SQL, or inside a literal. -/
inductive Place where
  | live
  | inside (quote : Quote)
  deriving Repr, DecidableEq

def space : UInt8 := 0x20

def backslash : UInt8 := 0x5C

/-- Every byte inside a literal becomes a space. The opening and the closing
mark stay; a doubled mark is content, and so is what a backslash escapes. A
literal that nothing closes runs to the end. -/
def blank : Place → List UInt8 → List UInt8
  | _, [] => []
  | .live, b :: bs =>
    match Quote.ofMark? b with
    | some q => b :: blank (.inside q) bs
    | none => b :: blank .live bs
  | .inside q, [b] => if b = q.mark then [b] else [space]
  | .inside q, b :: c :: bs =>
    if q.escapes ∧ b = backslash then space :: space :: blank (.inside q) bs
    else if b = q.mark then
      if c = q.mark then space :: space :: blank (.inside q) bs
      else b :: blank .live (c :: bs)
    else space :: blank (.inside q) (c :: bs)

/-- The text with the contents of its literals blanked. -/
def stripLiterals (sql : List Char) : List Char :=
  Text.Utf8.decodeLossy (blank .live (Text.Utf8.encode sql))

end QueryGate.Sql
