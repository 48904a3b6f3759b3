import SealedRelay.Text.Width.Class
/-!
# How wide text is

The places that a text takes on a terminal. A text is as wide as its characters together, except
where characters merge into one shape: emoji with their styles, skin tones and joiners, flags, and
the ligatures of some scripts. Whether a character merges depends on what comes after it, so a text
is measured from its end.
-/
namespace SealedRelay.Text

namespace Width

/-- A character that asks for a style of the one before it. -/
inductive Selector where
  | emoji
  | text
  | fullwidth
  deriving DecidableEq

/-- What a text begins with, as far as the character before it may merge with that. -/
inductive Head where
  | other
  | lineFeed
  | skinTone
  | emoji
  /-- One flag letter, or more. -/
  | flagLetter
  | flagLetters
  /-- A joiner and an emoji, and what may stand between an emoji and them. -/
  | joiner
  | joinerKeycap
  | joinerFlagLetter
  | joinerFlag
  | joinerFlagAndLetter
  /-- The end of an emoji made of tags: so many letters, or so many digits before those. -/
  | joinerTagLetters (n : Nat)
  | joinerTagDigits (n : Nat)
  | alef
  | lamed
  | ya
  | vowelYa
  | tifinagh
  | tifinaghJoiner
  | lisuTone
  | orkhonI
  | coengLetter
  | kiratE
  | kiratAi
  deriving DecidableEq

/-- Whether a ligature of letters may begin with the next character. -/
def Head.isLetter : Head → Bool
  | alef | lamed | ya | vowelYa | tifinagh | tifinaghJoiner | lisuTone | orkhonI | coengLetter
  | kiratE | kiratAi => true
  | _ => false

/-- The text after a character, as far as the character's width depends on it. -/
structure Tail where
  head : Head := .other
  /-- A joiner stands before the letter. -/
  joined : Bool := false
  /-- The style that is asked for. -/
  selector : Option Selector := none
  deriving DecidableEq

def joiner : Char := '\u200d'

/-- The style that a character asks for. -/
def Selector.ofChar? (c : Char) : Option Selector :=
  if c = '\ufe0f' then some .emoji
  else if c = '\ufe0e' then some .text
  else if c = '\ufe01' then some .fullwidth
  else none

def between (low high : Nat) (c : Char) : Bool := low ≤ c.toNat && c.toNat ≤ high

def isFlagLetter : Char → Bool := between 0x1f1e6 0x1f1ff

def isSkinTone : Char → Bool := between 0x1f3fb 0x1f3ff

/-- Whether a character is shown as text when that is asked for, and as something wider otherwise.
Squared ideographs stay wide. -/
def narrows (c : Char) : Bool :=
  styled.contains c && emoji.contains c && !between 0x1f200 0x1f2ff c

def isCurlyQuote (c : Char) : Bool := "‘’“”".contains c

def ofChar (c : Char) : Nat :=
  if c.toNat ≤ 0xa0 then 1
  else if zero.contains c then 0
  else if wide.contains c then 2
  else 1

/-- What a text begins with that begins with a character. -/
def Head.ofChar (c : Char) : Head :=
  if c = '\n' then .lineFeed
  else if c.toNat ≤ 0xa0 then .other
  else if isSkinTone c then .skinTone
  else if isFlagLetter c then .flagLetter
  else if Width.emoji.contains c then .emoji
  else if Width.alef.contains c then .alef
  else if Width.tifinagh.contains c then .tifinagh
  else if Width.coengLetter.contains c then .coengLetter
  else if c = '\u05dc' then .lamed
  else if c = '\u1a10' then .ya
  else if between 0xa4fc 0xa4fd c then .lisuTone
  else if c = Char.ofNat 0x10c03 then .orkhonI
  else if c = Char.ofNat 0x16d67 then .kiratE
  else if c = Char.ofNat 0x16d68 then .kiratAi
  else .other

/-- What becomes of a tail when the style it asks for does not concern the character before. -/
def Tail.unstyled (t : Tail) : Tail :=
  if t.selector.isNone then t
  else if t.head.isLetter then { t with selector := none }
  else {}

/-- The tail with a style asked for before it. -/
def Tail.ask (t : Tail) (s : Selector) : Tail :=
  if t.head.isLetter || (s = .emoji && (t.head = .joiner || t.head = .joinerKeycap)) then
    { t with selector := some s }
  else { selector := some s }

/-- How a letter merges with the text after it: by how much that widens the text, and what the text
begins with then. -/
def mergeLetter (c : Char) (t : Tail) : Option (Int × Head) :=
  match t.head with
  | .alef =>
    if Width.lam.contains c then some (0, .other)
    else if zero.contains c && !separating.contains c then some (0, .alef)
    else none
  | .lamed => if t.joined && c = '\u05d0' then some (0, .other) else none
  | .coengLetter => if c = '\u17d2' then some (-1, .other) else none
  | .ya => if t.joined && c = '\u1a17' then some (0, .vowelYa) else none
  | .vowelYa => if c = '\u1a15' then some (0, .other) else none
  | .tifinagh =>
    if c = '\u2d7f' then some (1, .tifinaghJoiner)
    else if t.joined && tifinagh.contains c then some (0, .other)
    else none
  | .tifinaghJoiner => if tifinagh.contains c then some (-1, .other) else none
  | .lisuTone => if between 0xa4f8 0xa4fb c then some (0, .other) else none
  | .orkhonI => if t.joined && c.toNat = 0x10c32 then some (0, .other) else none
  | .kiratE =>
    if c.toNat = 0x16d67 then some (0, .kiratAi)
    else if c.toNat = 0x16d68 then some (1, .kiratE)
    else if c.toNat = 0x16d63 || c.toNat = 0x16d69 then some (0, .other)
    else none
  | .kiratAi => if c.toNat = 0x16d63 then some (0, .other) else none
  | _ => none

/-- How a part of an emoji merges with the text after it. -/
def mergeEmoji (c : Char) (h : Head) : Option (Int × Head) :=
  let flag := isFlagLetter c
  let tagLetter := between 0xe0061 0xe007a c
  let tagDigit := between 0xe0030 0xe0039 c
  match h with
  | .skinTone =>
    if person.contains c then some (0, .emoji) else if c = joiner then some (0, .joiner) else none
  | .emoji => if c = joiner then some (0, .joiner) else none
  | .flagLetter => if flag then some (1, .flagLetters) else none
  | .flagLetters =>
    if flag then some (1, .flagLetters) else if c = joiner then some (0, .joiner) else none
  | .joiner =>
    if c = '\u20e3' then some (0, .joinerKeycap)
    else if flag then some (1, .joinerFlagLetter)
    else if isSkinTone c then some (0, .skinTone)
    else if c.toNat = 0xe007f then some (0, .joinerTagLetters 0)
    else if emoji.contains c then some (0, .emoji)
    else none
  | .joinerFlagLetter => if flag then some (-1, .joinerFlag) else none
  | .joinerFlag =>
    if flag then some (3, .joinerFlagAndLetter)
    else if c = joiner then some (0, .joiner)
    else none
  | .joinerFlagAndLetter =>
    if flag then some (-1, .joinerFlag) else if c = joiner then some (0, .joiner) else none
  | .joinerTagLetters n =>
    if tagLetter && n < 6 then some (0, .joinerTagLetters (n + 1))
    else if tagDigit && n < 5 then some (0, .joinerTagDigits 1)
    else if c.toNat = 0x1f3f4 && 3 ≤ n then some (0, .emoji)
    else none
  | .joinerTagDigits n =>
    if tagDigit && n < 3 then some (0, .joinerTagDigits (n + 1))
    else if c.toNat = 0x1f3f4 && n = 3 then some (0, .emoji)
    else none
  | _ => none

/-- By how much a character widens the text after it, and the text that it makes. -/
def step (c : Char) (t : Tail) : Int × Tail :=
  if t.selector = some .emoji && styled.contains c then
    (if t.head = .joiner || t.head = .joinerKeycap then 0 else 2, { head := .emoji })
  else if c = '\r' then (if t = { head := .lineFeed } then 0 else 1, {})
  else if c.toNat ≤ 0xa0 then (1, { head := .ofChar c })
  else if let some s := Selector.ofChar? c then (0, t.ask s)
  else if t.selector = some .text && narrows c then (1, {})
  else if t.selector = some .fullwidth && isCurlyQuote c then (2, {})
  else
    let t := t.unstyled
    let passes := t.head.isLetter && t.head ≠ .alef
    if passes && c = joiner then (0, { t with joined := true })
    else if passes && transparent.contains c then (0, t)
    else
      match (mergeLetter c t).orElse fun _ => mergeEmoji c t.head with
      | some (w, head) => (w, { head })
      | none => (ofChar c, { head := .ofChar c })

end Width

/-- Places that a text takes. -/
def width (s : String) : Nat :=
  (s.toList.foldr
    (fun c (sum, t) =>
      let (w, t) := Width.step c t
      (sum + w, t)) ((0 : Int), ({} : Width.Tail))).1.toNat

end SealedRelay.Text
