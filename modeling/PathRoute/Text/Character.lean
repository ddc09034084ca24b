import PathRoute.Text.Category
import PathRoute.Text.Property.Ranges

/-!
# Kinds of characters

Blank characters and the texts that are left when they are cut off, digits and the numbers that they
write, and the letters and digits that names are made of.
-/

namespace PathRoute

/-! ## Blank characters -/

/-- Spaces, tabs, line ends and the other characters with the property White_Space. -/
def isBlank (c : Char) : Bool := Property.Ranges.whiteSpace.contains c

/-- The characters left when the blank ones at both ends are cut off. -/
def trimChars (cs : List Char) : List Char :=
  ((cs.dropWhile isBlank).reverse.dropWhile isBlank).reverse

/-- The text without the blank characters at its ends. -/
def trim (s : String) : String := .ofList (trimChars s.toList)

/-! ## Digits -/

/-- The value of a hexadecimal digit. -/
def hexValue? (c : Char) : Option Nat :=
  if c.isDigit then some (c.toNat - '0'.toNat)
  else if 'a' ≤ c ∧ c ≤ 'f' then some (c.toNat - 'a'.toNat + 10)
  else if 'A' ≤ c ∧ c ≤ 'F' then some (c.toNat - 'A'.toNat + 10)
  else none

/-- Whether a character is a digit of a base. -/
def isDigitOf (base : Nat) (c : Char) : Bool := (hexValue? c).any (· < base)

/-- The number that digits write in a base. -/
def numberOf (base : Nat) (digits : List Char) : Nat :=
  digits.foldl (fun n c => n * base + (hexValue? c).getD 0) 0

/-! ## Letters -/

/-- The property Alphabetic: letters, letter numbers, and the characters that join them. -/
def alphabetic : CodeRanges :=
  Category.rangesOf (Category.letters ++ [.letterNumber]) ++ Property.Ranges.otherAlphabetic

def isAlphabetic (c : Char) : Bool := alphabetic.contains c

/-- A number of any kind: a digit, a letter number, a fraction. -/
def isNumeric (c : Char) : Bool := (Category.rangesOf Category.numbers).contains c

def isAlphanumeric (c : Char) : Bool := isAlphabetic c || isNumeric c

/-- The characters of a placeholder's name. -/
def isNameChar (c : Char) : Bool := isAlphanumeric c || c == '_'

end PathRoute
