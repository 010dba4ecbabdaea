import QueryGate.Text.WidthRanges
/-!
# Texts made visible

A text in double quotes, with an escape for every character that cannot be seen
as what it is.
-/

namespace QueryGate.Text

/-- Controls, format characters, separators other than the space, and private
characters. -/
def unseenRanges : List (Nat × Nat) :=
  [(0x0, 0x1F), (0x7F, 0xA0), (0xAD, 0xAD), (0x600, 0x605), (0x61C, 0x61C), (0x6DD, 0x6DD),
   (0x70F, 0x70F), (0x890, 0x891), (0x8E2, 0x8E2), (0x1680, 0x1680), (0x180E, 0x180E),
   (0x2000, 0x200F), (0x2028, 0x202F), (0x205F, 0x206F), (0x3000, 0x3000), (0xE000, 0xF8FF),
   (0xFEFF, 0xFEFF), (0xFFF9, 0xFFFB), (0x110BD, 0x110BD), (0x110CD, 0x110CD),
   (0x13430, 0x1343F), (0x1BCA0, 0x1BCA3), (0x1D173, 0x1D17A), (0xE0001, 0xE0001),
   (0xF0000, 0xFFFFD), (0x100000, 0x10FFFD)]

def visibleChar (c : Char) : List Char :=
  if c.toNat = 0 then ['\\', '0']
  else if c = '\t' then ['\\', 't']
  else if c = '\n' then ['\\', 'n']
  else if c = '\r' then ['\\', 'r']
  else if c = '"' then ['\\', '"']
  else if c = '\\' then ['\\', '\\']
  else if inRanges unseenRanges c || inRanges extendingRanges c then
    '\\' :: 'u' :: '\x7b' :: Nat.toDigits 16 c.toNat ++ ['\x7d']
  else [c]

def visible (s : String) : String := .ofList ('"' :: s.toList.flatMap visibleChar ++ ['"'])

/-- A text that may be absent, and says so. -/
def visibleOption : Option String → String
  | some s => "Some(" ++ visible s ++ ")"
  | none => "None"

end QueryGate.Text
