import RunBoard.Text.Classes

/-!
# Terminal columns

The number of columns that a text takes. Marks take none, ideographs and emoji two. An
emoji selector widens the sign before it; a joiner and a skin tone belong to the emoji
before them.
-/

namespace RunBoard.Text.Width

def isWide (c : Char) : Bool := Classes.within Classes.wide c.toNat

def isMark (c : Char) : Bool := Classes.within Classes.zeroWidth c.toNat

def isPictograph (c : Char) : Bool := Classes.within Classes.pictographs c.toNat

/-- The columns of a character that stands alone. -/
def ofChar (c : Char) : Nat :=
  if c.toNat < 0x80 then 1
  else if isMark c then 0
  else if isWide c then 2
  else 1

def joiner : Char := '\u200d'

def emojiSelector : Char := '\ufe0f'

def isSkinTone (c : Char) : Bool := 0x1f3fb ≤ c.toNat && c.toNat ≤ 0x1f3ff

/-- The columns that a character adds behind `before`. -/
def added (before : Option Char) (c : Char) : Nat :=
  match before with
  | none => ofChar c
  | some last =>
      if c = emojiSelector && isPictograph last then 1
      else if last = joiner && isWide c then 0
      else if isSkinTone c && isWide last then 0
      else ofChar c

def ofChars (before : Option Char) : List Char → Nat
  | [] => 0
  | c :: rest => added before c + ofChars (some c) rest

/-- The columns of a text. -/
def ofText (text : String) : Nat :=
  ofChars none text.toList

end RunBoard.Text.Width
