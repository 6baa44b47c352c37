import Guardrail.Unicode.Category

/-!
The classes of characters that texts are searched and trimmed by.
-/

namespace Guardrail.Unicode

def isSpace (c : Char) : Bool :=
  let n := c.toNat
  (9 ≤ n && n ≤ 13) || n == 32 || n == 0x85 || n == 0xA0 || n == 0x1680 || (0x2000 ≤ n && n ≤ 0x200A)
    || n == 0x2028 || n == 0x2029 || n == 0x202F || n == 0x205F || n == 0x3000

def isDigit (c : Char) : Bool :=
  if c.toNat < 0x80 then c.isDigit else Category.decimalNumber.has c

def isMark (c : Char) : Bool :=
  Category.nonspacingMark.has c || Category.spacingMark.has c || Category.enclosingMark.has c

/-- A circled or squared Latin letter, alphabetic without being a letter. -/
def isEnclosedLetter (c : Char) : Bool :=
  let n := c.toNat
  (0x24B6 ≤ n && n ≤ 0x24E9) || (0x1F130 ≤ n && n ≤ 0x1F149) || (0x1F150 ≤ n && n ≤ 0x1F169)
    || (0x1F170 ≤ n && n ≤ 0x1F189)

def isLetter (c : Char) : Bool :=
  if c.toNat < 0x80 then c.isAlpha
  else
    Category.otherLetter.has c || Category.lowercaseLetter.has c || Category.uppercaseLetter.has c
      || Category.modifierLetter.has c || Category.titlecaseLetter.has c

/-- A character of words: letters, marks, digits, connectors and the two joiners. -/
def isWord (c : Char) : Bool :=
  if c.toNat < 0x80 then c.isAlphanum || c == '_'
  else
    isLetter c || isMark c || Category.decimalNumber.has c || Category.letterNumber.has c
      || Category.connectorPunctuation.has c || isEnclosedLetter c || c.toNat == 0x200C || c.toNat == 0x200D

/-- Has a lower-case form of its own or is one. -/
def isCased (c : Char) : Bool :=
  let n := c.toNat
  if n < 0x80 then c.isAlpha
  else
    Category.lowercaseLetter.has c || Category.uppercaseLetter.has c || Category.titlecaseLetter.has c
      || isEnclosedLetter c || n == 0xAA || n == 0xBA || (0x2B0 ≤ n && n ≤ 0x2B8) || n == 0x2C0 || n == 0x2C1
      || (0x2E0 ≤ n && n ≤ 0x2E4) || n == 0x345 || n == 0x37A || n == 0x10FC || (0x1D2C ≤ n && n ≤ 0x1D6A)
      || n == 0x1D78 || (0x1D9B ≤ n && n ≤ 0x1DBF) || n == 0x2071 || n == 0x207F || (0x2090 ≤ n && n ≤ 0x209C)
      || (0x2160 ≤ n && n ≤ 0x217F)

/-- Passed over when the neighbours of a letter are looked at. -/
def isCaseIgnorable (c : Char) : Bool :=
  let n := c.toNat
  n == 0x27 || n == 0x2E || n == 0x3A || n == 0x5E || n == 0x60 || n == 0xB7 || n == 0x387 || n == 0x55F
    || n == 0x5F4 || n == 0x2018 || n == 0x2019 || n == 0x2024 || n == 0x2027
    || (0x80 ≤ n && (Category.nonspacingMark.has c || Category.enclosingMark.has c || Category.format.has c
      || Category.modifierLetter.has c || Category.modifierSymbol.has c))

def isExtending (c : Char) : Bool :=
  let n := c.toNat
  0x80 ≤ n && (Category.nonspacingMark.has c || Category.enclosingMark.has c || n == 0x200C
    || n == 0xFF9E || n == 0xFF9F || n == 0x302E || n == 0x302F)

def isPrintable (c : Char) : Bool :=
  let n := c.toNat
  if n < 0x80 then 0x20 ≤ n && n != 0x7F
  else
    isLetter c || isMark c || Category.decimalNumber.has c || Category.letterNumber.has c
      || Category.otherNumber.has c || Category.connectorPunctuation.has c || Category.dashPunctuation.has c
      || Category.openPunctuation.has c || Category.closePunctuation.has c
      || Category.initialPunctuation.has c || Category.finalPunctuation.has c
      || Category.otherPunctuation.has c || Category.mathSymbol.has c || Category.currencySymbol.has c
      || Category.modifierSymbol.has c || Category.otherSymbol.has c

end Guardrail.Unicode
