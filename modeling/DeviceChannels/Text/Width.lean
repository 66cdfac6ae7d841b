import DeviceChannels.Text.Emoji
import DeviceChannels.Text.Label
import DeviceChannels.Text.ZeroWidth

/-!
Columns that characters and texts take on a screen. A character alone takes none, one or two. In
a text neighbours matter: a picture sequence takes two columns in all, some letters join into one
column, a control character takes one. A text is read from its end, since what a character takes
depends on what follows it. A text that is too wide is cut, and the cut marked by three dots where
there is room.
-/

namespace DeviceChannels.Text

/-- Columns of a character that is not a control character. -/
def plainWidth (c : Char) : Nat :=
  if c.toNat < 0xA0 then 1
  else if c.toNat == 0x17D8 then 3
  else if isZeroWidth c then 0
  else if isWide c then 2
  else 1

def charWidth (c : Char) : Nat := if isControl c then 0 else plainWidth c

/-- What begins right after a character, as far as the character's columns depend on it. -/
inductive Neighbour
  | plain
  | lineFeed
  | skinTone
  | indicator
  | indicators
  | picture
  | joinedPicture
  | joinedKeycap
  | joinedIndicator
  | joinedEvenIndicators
  | joinedOddIndicators
  /-- The end of a tag sequence, with letters of it before the end. -/
  | joinedTagLetters (count : Nat)
  /-- A tag sequence from its first digit read on, the digits being before its letters. -/
  | joinedTagDigits (count : Nat)
  | alef
  | lamed
  | coengLetter
  | ya
  | vowelYa
  | tifinagh
  | tifinaghJoined
  | lisuTone
  | orkhonI
  | kiratE
  | kiratAi
  deriving DecidableEq, Repr

/-- Letters that join with an earlier one across invisible marks. -/
def Neighbour.seesThroughMarks : Neighbour → Bool
  | .lamed | .coengLetter | .ya | .vowelYa | .tifinagh | .tifinaghJoined | .lisuTone
  | .orkhonI => true
  | _ => false

def Neighbour.isJoinedPicture : Neighbour → Bool
  | .joinedPicture | .joinedKeycap => true
  | _ => false

inductive Selector
  | none
  | text
  | emoji
  deriving DecidableEq, Repr

/-- The neighbour with a variation selector or a joiner read before it. -/
structure Following where
  neighbour : Neighbour := .plain
  selector : Selector := .none
  joiner : Bool := false
  deriving DecidableEq, Repr

def isAlef (n : Nat) : Bool :=
  n == 0x622 || n == 0x623 || n == 0x625 || n == 0x627 || (0x671 ≤ n && n ≤ 0x673) ||
    n == 0x675 || n == 0x773 || n == 0x774 || (0x870 ≤ n && n ≤ 0x882)

def isLam (n : Nat) : Bool :=
  n == 0x644 || (0x6B5 ≤ n && n ≤ 0x6B8) || n == 0x76A || n == 0x8A6 || n == 0x8C7

/-- Khmer letters that can stand below another. -/
def coengLetters : CodePoints :=
  [(0x1780, 0x1782), (0x1784, 0x1787), (0x1789, 0x178C), (0x178E, 0x1793), (0x1795, 0x1798),
   (0x179B, 0x179D), (0x17A0, 0x17A0), (0x17A2, 0x17A2), (0x17A7, 0x17A7), (0x17AB, 0x17AC),
   (0x17AF, 0x17AF)]

def isTifinagh (n : Nat) : Bool := (0x2D31 ≤ n && n ≤ 0x2D65) || n == 0x2D6F

/-- Invisible marks and the joiner, which do not part two letters that join. -/
def joinTransparent : CodePoints :=
  [(0x34F, 0x34F), (0x17B4, 0x17B5), (0x180B, 0x180D), (0x180F, 0x180F), (0x200D, 0x200D),
   (0xFE00, 0xFE0F), (0xE0100, 0xE01EF)]

/-- The letters that a tag spells a region with. -/
def isTagLetter (n : Nat) : Bool := 0xE0061 ≤ n && n ≤ 0xE007A

def isTagDigit (n : Nat) : Bool := 0xE0030 ≤ n && n ≤ 0xE0039

/-- The flag that a tag sequence begins with. -/
def isTagBase (n : Nat) : Bool := n == 0x1F3F4

def joinsArabic (c : Char) : Bool := plainWidth c == 0 && !nonJoiningZeroWidth.has c

def isPicture (c : Char) : Bool := emojiPresentation.has c

def neighbourOf (c : Char) : Neighbour :=
  let n := c.toNat
  if n < 0x590 then .plain
  else if isAlef n then .alef
  else if n == 0x5DC then .lamed
  else if coengLetters.has c then .coengLetter
  else if n == 0x1A10 then .ya
  else if isTifinagh n then .tifinagh
  else if n == 0xA4FC || n == 0xA4FD then .lisuTone
  else if n == 0x10C03 then .orkhonI
  else if n == 0x16D67 then .kiratE
  else if n == 0x16D68 then .kiratAi
  else if isRegionalIndicator c then .indicator
  else if isEmojiModifier c then .skinTone
  else if isPicture c then .picture
  else .plain

/-- Columns of a character and what it offers its predecessor, with nothing after it that
matters. -/
def ownColumns (c : Char) : Int × Following :=
  let selector := if c.toNat == 0xFE0F then .emoji else if c.toNat == 0xFE0E then .text else .none
  (plainWidth c, ⟨neighbourOf c, selector, false⟩)

/-- Columns in the places where two neighbours are drawn as one, with what is offered to the
predecessor. -/
def joinedColumns (c : Char) (f : Following) : Option (Int × Following) :=
  let n := c.toNat
  let offer (k : Neighbour) : Following := ⟨k, .none, false⟩
  match f.neighbour with
  | .alef =>
    if isLam n then some (0, {}) else if joinsArabic c then some (0, offer .alef) else none
  | .lamed => if f.joiner && n == 0x5D0 then some (0, {}) else none
  | .coengLetter => if n == 0x17D2 then some (-1, {}) else none
  | .ya => if f.joiner && n == 0x1A17 then some (0, offer .vowelYa) else none
  | .vowelYa => if n == 0x1A15 then some (0, {}) else none
  | .tifinagh =>
    if n == 0x2D7F then some (1, offer .tifinaghJoined)
    else if f.joiner && isTifinagh n then some (0, {}) else none
  | .tifinaghJoined => if isTifinagh n then some (-1, {}) else none
  | .lisuTone => if 0xA4F8 ≤ n && n ≤ 0xA4FB then some (0, {}) else none
  | .orkhonI => if f.joiner && n == 0x10C32 then some (0, {}) else none
  | .kiratE =>
    if n == 0x16D63 || n == 0x16D69 then some (0, {})
    else if n == 0x16D67 then some (0, offer .kiratAi)
    else if n == 0x16D68 then some (1, offer .kiratE) else none
  | .kiratAi => if n == 0x16D63 then some (0, {}) else none
  | .skinTone =>
    if emojiModifierBase.has c then some (0, offer .picture)
    else if n == 0x200D then some (0, offer .joinedPicture) else none
  | .indicator => if isRegionalIndicator c then some (1, offer .indicators) else none
  | .indicators =>
    if isRegionalIndicator c then some (1, offer .indicators)
    else if n == 0x200D then some (0, offer .joinedPicture) else none
  | .picture => if n == 0x200D then some (0, offer .joinedPicture) else none
  | .joinedPicture =>
    if n == 0x20E3 then some (0, offer .joinedKeycap)
    else if isRegionalIndicator c then some (1, offer .joinedIndicator)
    else if isEmojiModifier c then some (0, offer .skinTone)
    else if n == 0xE007F then some (0, offer (.joinedTagLetters 0))
    else if isPicture c then some (0, offer .picture) else none
  | .joinedIndicator =>
    if isRegionalIndicator c then some (-1, offer .joinedEvenIndicators) else none
  | .joinedOddIndicators =>
    if isRegionalIndicator c then some (-1, offer .joinedEvenIndicators)
    else if n == 0x200D then some (0, offer .joinedPicture) else none
  | .joinedEvenIndicators =>
    if isRegionalIndicator c then some (3, offer .joinedOddIndicators)
    else if n == 0x200D then some (0, offer .joinedPicture) else none
  | .joinedTagLetters k =>
    if isTagLetter n && k < 6 then some (0, offer (.joinedTagLetters (k + 1)))
    else if isTagDigit n && k ≤ 4 then some (0, offer (.joinedTagDigits 1))
    else if isTagBase n && 3 ≤ k then some (0, offer .picture) else none
  | .joinedTagDigits k =>
    if isTagDigit n && k < 3 then some (0, offer (.joinedTagDigits (k + 1)))
    else if isTagBase n && 3 ≤ k then some (0, offer .picture) else none
  | _ => none

/-- Columns of a character beyond the Latin letters before `f`, no emoji selector among it. -/
def columnsBefore (c : Char) (f : Following) : Int × Following :=
  let n := c.toNat
  if f = {} then ownColumns c
  else if n == 0xFE0F then
    if f.neighbour.seesThroughMarks || f.neighbour == .alef || f.neighbour.isJoinedPicture then
      (0, { f with selector := .emoji })
    else (0, ⟨.plain, .emoji, false⟩)
  else if n == 0xFE0E then
    if f.neighbour.seesThroughMarks || f.neighbour == .alef then
      (0, { f with selector := .text })
    else (0, ⟨.plain, .text, false⟩)
  else if f.selector = .text && narrowsAsText c then (1, {})
  else
    let f := { f with selector := .none }
    if f.neighbour.seesThroughMarks && n == 0x200D then (0, { f with joiner := true })
    else if f.neighbour.seesThroughMarks && joinTransparent.has c then (0, f)
    else (joinedColumns c f).getD (ownColumns c)

/-- Columns of a character in a text, given what follows it. -/
def columns (c : Char) (f : Following) : Int × Following :=
  if f.selector = .emoji && emojiVariationBase.has c then
    (if f.neighbour.isJoinedPicture then 0 else 2, ⟨.picture, .none, false⟩)
  else
    let f : Following :=
      if f.selector = .emoji then
        if f.neighbour.seesThroughMarks || f.neighbour == .alef then { f with selector := .none }
        else {}
      else f
    if c.toNat ≤ 0xA0 then
      if c = '\n' then (1, ⟨.lineFeed, .none, false⟩)
      else if c = '\r' && f.neighbour == .lineFeed then (0, {})
      else (1, {})
    else columnsBefore c f

/-- One character more in front of a text already measured. -/
def addColumns (c : Char) (rest : Int × Following) : Int × Following :=
  let own := columns c rest.2
  (own.1 + rest.1, own.2)

def widthChars (cs : List Char) : Nat := (cs.foldr addColumns (0, {})).1.toNat

def width (s : String) : Nat := widthChars s.toList

def ellipsis : List Char := ['.', '.', '.']

/-- The longest beginning whose characters, each measured alone, fit the budget. -/
def takeColumns (budget : Nat) : List Char → List Char
  | [] => []
  | c :: cs =>
    if charWidth c ≤ budget then c :: takeColumns (budget - charWidth c) cs else []

def cutChars (columns : Nat) (cs : List Char) : List Char :=
  if columns ≤ ellipsis.length then takeColumns columns cs
  else takeColumns (columns - ellipsis.length) cs ++ ellipsis

/-- The text itself if it fits, otherwise its beginning. -/
def cut (columns : Nat) (s : String) : String :=
  if width s ≤ columns then s else String.ofList (cutChars columns s.toList)

end DeviceChannels.Text
