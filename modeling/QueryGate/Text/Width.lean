import QueryGate.Text.WidthRanges
/-!
# Display width

How many columns of a terminal a text takes. Most characters have a width of
their own; some are shown together with what follows them. The text is
therefore summed up from its end, and what stands to the right of a character
is carried along as far as it matters.
-/

namespace QueryGate.Text.Width

/-- The beginning of what has been summed up already. -/
inductive Ahead where
  | other
  | lineFeed
  | skinTone
  | flagLetter
  | flagLetters
  | emoji
  /-- An emoji with a joiner before it. -/
  | joined
  /-- The same with a keycap mark before the joiner. -/
  | joinedKeycap
  | joinedFlagLetter
  | joinedFlagEven
  | joinedFlagOdd
  /-- The end of a flag that is spelt in tags, and the digits or letters before
  it. -/
  | tagsEnd
  | tagDigits (n : Nat)
  | tagLetters (n : Nat)
  | alef
  | lamed
  | ya
  | yaWithVowel
  | tifinagh
  | tifinaghJoined
  | lisuTone
  | orkhon
  | khmer
  | kiratE
  | kiratAi
  deriving Repr, DecidableEq

/-- How a selector asks for an emoji to be shown. -/
inductive Style where
  | text
  | emoji
  deriving Repr, DecidableEq

/-- Here `joiner` says that a joiner stands before a letter of a ligature. -/
structure State where
  ahead : Ahead
  joiner : Bool
  style : Option Style
  deriving Repr, DecidableEq

def State.ofAhead (a : Ahead) : State := ⟨a, false, none⟩

def start : State := .ofAhead .other

namespace Ahead

/-- Whether joiners and invisible marks may stand inside the ligature. -/
def isOpenLigature : Ahead → Bool
  | lamed | ya | yaWithVowel | tifinagh | tifinaghJoined | lisuTone | orkhon | khmer | kiratE
  | kiratAi => true
  | _ => false

/-- Whether a selector leaves it in sight. -/
def keepsSelector : Ahead → Bool
  | joined | joinedKeycap | alef => true
  | a => a.isOpenLigature

end Ahead

/-! ## Characters -/

def isBetween (low high : Nat) (c : Char) : Bool := low ≤ c.toNat && c.toNat ≤ high

def zeroWidthJoiner : Char := '\u200D'

def isFlagLetter : Char → Bool := isBetween 0x1F1E6 0x1F1FF

def isSkinTone : Char → Bool := isBetween 0x1F3FB 0x1F3FF

def isTagLetter : Char → Bool := isBetween 0xE0061 0xE007A

def isTagDigit : Char → Bool := isBetween 0xE0030 0xE0039

def isTifinagh (c : Char) : Bool := isBetween 0x2D31 0x2D65 c || c.toNat == 0x2D6F

def isAlef : Char → Bool :=
  inRanges [(0x622, 0x623), (0x625, 0x625), (0x627, 0x627), (0x671, 0x673), (0x675, 0x675),
    (0x773, 0x774), (0x870, 0x882)]

def isLam : Char → Bool :=
  inRanges [(0x644, 0x644), (0x6B5, 0x6B8), (0x76A, 0x76A), (0x8A6, 0x8A6), (0x8C7, 0x8C7)]

/-- Khmer letters that have a subscript form. -/
def isKhmerSubscript : Char → Bool :=
  inRanges [(0x1780, 0x1782), (0x1784, 0x1787), (0x1789, 0x178C), (0x178E, 0x1793),
    (0x1795, 0x1798), (0x179B, 0x179D), (0x17A0, 0x17A0), (0x17A2, 0x17A2), (0x17A7, 0x17A7),
    (0x17AB, 0x17AC), (0x17AF, 0x17AF)]

/-- Invisible marks that a ligature is formed across. -/
def isTransparent : Char → Bool :=
  inRanges [(0x34F, 0x34F), (0x17B4, 0x17B5), (0x180B, 0x180D), (0x180F, 0x180F),
    (0x200D, 0x200D), (0xFE00, 0xFE0F), (0xE0100, 0xE01EF)]

def isEmoji : Char → Bool := inRanges emojiRanges

/-- Whether an emoji selector may follow. -/
def takesEmojiStyle (c : Char) : Bool := isEmoji c || inRanges textEmojiRanges c

/-- The width of a character on its own. -/
def ofChar (c : Char) : Nat :=
  if c.toNat ≤ 0xA0 then 1
  else if c.toNat = 0x17D8 then 3
  else if c.toNat = 0x2D7F then 1
  else if inRanges extendingRanges c || inRanges invisibleRanges c then 0
  else if inRanges wideRanges c then 2
  else 1

/-- What a character is to the one before it. -/
def aheadOf (c : Char) : Ahead :=
  let n := c.toNat
  if isFlagLetter c then .flagLetter
  else if isSkinTone c then .skinTone
  else if isEmoji c then .emoji
  else if isAlef c then .alef
  else if n = 0x5DC then .lamed
  else if n = 0x1A10 then .ya
  else if isTifinagh c then .tifinagh
  else if n = 0xA4FC ∨ n = 0xA4FD then .lisuTone
  else if n = 0x10C03 then .orkhon
  else if isKhmerSubscript c then .khmer
  else if n = 0x16D67 then .kiratE
  else .other

/-- A character that nothing to its right changes. -/
def alone (c : Char) : Int × State :=
  if c = '\uFE0F' then (0, ⟨.other, false, some .emoji⟩)
  else if c = '\uFE0E' then (0, ⟨.other, false, some .text⟩)
  else (ofChar c, .ofAhead (aheadOf c))

/-! ## Sequences -/

/-- What a character adds where it is shown together with what stands ahead. -/
def together (s : State) (c : Char) : Option (Int × Ahead) :=
  let n := c.toNat
  match s.ahead with
  | .alef =>
    if isLam c then some (0, .other)
    else if inRanges joiningTransparentRanges c then some (0, .alef)
    else none
  | .lamed => if s.joiner ∧ n = 0x5D0 then some (0, .other) else none
  | .khmer => if n = 0x17D2 then some (-1, .other) else none
  | .ya => if s.joiner ∧ n = 0x1A17 then some (0, .yaWithVowel) else none
  | .yaWithVowel => if n = 0x1A15 then some (0, .other) else none
  | .tifinagh =>
    if n = 0x2D7F then some (1, .tifinaghJoined)
    else if s.joiner ∧ isTifinagh c then some (0, .other)
    else none
  | .tifinaghJoined => if isTifinagh c then some (-1, .other) else none
  | .lisuTone => if isBetween 0xA4F8 0xA4FB c then some (0, .other) else none
  | .orkhon => if s.joiner ∧ n = 0x10C32 then some (0, .other) else none
  | .kiratE =>
    if n = 0x16D63 then some (0, .other)
    else if n = 0x16D67 then some (0, .kiratAi)
    else if n = 0x16D68 then some (1, .kiratE)
    else if n = 0x16D69 then some (0, .other)
    else none
  | .kiratAi => if n = 0x16D63 then some (0, .other) else none
  | .skinTone =>
    if inRanges skinToneBaseRanges c then some (0, .emoji)
    else if c = zeroWidthJoiner then some (0, .joined)
    else none
  | .flagLetter => if isFlagLetter c then some (1, .flagLetters) else none
  | .flagLetters =>
    if isFlagLetter c then some (1, .flagLetters)
    else if c = zeroWidthJoiner then some (0, .joined)
    else none
  | .emoji => if c = zeroWidthJoiner then some (0, .joined) else none
  | .joined =>
    if n = 0x20E3 then some (0, .joinedKeycap)
    else if isFlagLetter c then some (1, .joinedFlagLetter)
    else if isSkinTone c then some (0, .skinTone)
    else if n = 0xE007F then some (0, .tagsEnd)
    else if isEmoji c then some (0, .emoji)
    else none
  | .joinedFlagLetter => if isFlagLetter c then some (-1, .joinedFlagEven) else none
  | .joinedFlagEven =>
    if isFlagLetter c then some (3, .joinedFlagOdd)
    else if c = zeroWidthJoiner then some (0, .joined)
    else none
  | .joinedFlagOdd =>
    if isFlagLetter c then some (-1, .joinedFlagEven)
    else if c = zeroWidthJoiner then some (0, .joined)
    else none
  | .tagsEnd =>
    if isTagLetter c then some (0, .tagLetters 1)
    else none
  | .tagLetters k =>
    if isTagLetter c ∧ k < 6 then some (0, .tagLetters (k + 1))
    else if isTagDigit c ∧ k < 3 then some (0, .tagDigits 1)
    else if n = 0x1F3F4 ∧ 3 ≤ k then some (0, .emoji)
    else none
  | .tagDigits k =>
    if isTagDigit c ∧ k < 3 then some (0, .tagDigits (k + 1))
    else if n = 0x1F3F4 ∧ k = 3 then some (0, .emoji)
    else none
  | .other | .lineFeed | .joinedKeycap => none

/-- A selector before what stands ahead. -/
def select (s : State) (style : Style) : Int × State :=
  if s.ahead.keepsSelector then (0, { s with style := some style })
  else (0, ⟨.other, false, some style⟩)

/-- A character beyond Latin letters, no selector being ahead. -/
def extend (s : State) (c : Char) : Int × State :=
  if s = start then alone c
  else if c = '\uFE0F' then select s .emoji
  else if c = '\uFE0E' then select s .text
  else if s.ahead.isOpenLigature ∧ c = zeroWidthJoiner then (0, { s with joiner := true })
  else if s.ahead.isOpenLigature ∧ isTransparent c then (0, s)
  else
    match together s c with
    | some (w, ahead) => (w, .ofAhead ahead)
    | none => alone c

/-- What a character adds before what stands ahead. -/
def step (c : Char) (s : State) : Int × State :=
  if s.style = some .emoji ∧ takesEmojiStyle c then
    (if s.ahead = .joined ∨ s.ahead = .joinedKeycap then 0 else 2, .ofAhead .emoji)
  else if s.style = some .text ∧ inRanges textStyleRanges c then (1, start)
  else if c.toNat ≤ 0xA0 then
    if c = '\n' then (1, .ofAhead .lineFeed)
    else if c = '\r' ∧ s.ahead = .lineFeed then (0, start)
    else (1, start)
  else extend { s with style := none } c

/-- Width of a text and what its beginning is to a character before it. -/
def measure : List Char → Int × State
  | [] => (0, start)
  | c :: r =>
    let (width, s) := measure r
    let (more, s) := step c s
    (width + more, s)

end Width

/-- The columns a text takes. -/
def width (s : List Char) : Nat := (Width.measure s).1.toNat

end QueryGate.Text
