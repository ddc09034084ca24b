import PathRoute.Data
import PathRoute.Text.Character

/-!
# Numbers, dates and times in TOML

Whole numbers in four bases, of 64 bits, and numbers with a fraction or an exponent; a single
underscore may stand between two digits. A date, a time of day, or a date with a time, which may
have an offset.
-/

namespace PathRoute.Toml

/-! ## Numbers -/

/-- Digits without the underscores between them. -/
def digits? (base : Nat) : List Char → Option (List Char)
  | [] => none
  | [c] => if isDigitOf base c then some [c] else none
  | c :: '_' :: cs => if isDigitOf base c then (digits? base cs).map (c :: ·) else none
  | c :: cs => if isDigitOf base c then (digits? base cs).map (c :: ·) else none

/-- Decimal digits that do not begin with a needless zero. -/
def wholeDigits? (cs : List Char) : Option (List Char) := do
  let ds ← digits? 10 cs
  if cs.head? = some '0' ∧ cs.length ≠ 1 then none else some ds

/-- Whether a sign negates, and what stands after it. -/
def splitSign : List Char → Bool × List Char
  | '-' :: cs => (true, cs)
  | '+' :: cs => (false, cs)
  | cs => (false, cs)

/-- A number of 64 bits with its sign. -/
def signed? (negative : Bool) (n : Nat) : Option Int :=
  if negative then if n ≤ 0x8000000000000000 then some (-n) else none
  else if n < 0x8000000000000000 then some n else none

def integer? (cs : List Char) : Option Int :=
  match cs with
  | '0' :: 'x' :: ds => (digits? 16 ds).bind fun ds => signed? false (numberOf 16 ds)
  | '0' :: 'o' :: ds => (digits? 8 ds).bind fun ds => signed? false (numberOf 8 ds)
  | '0' :: 'b' :: ds => (digits? 2 ds).bind fun ds => signed? false (numberOf 2 ds)
  | cs =>
    let (negative, ds) := splitSign cs
    (wholeDigits? ds).bind fun ds => signed? negative (numberOf 10 ds)

/-- Whether a decimal number is beyond the largest one of 64 bits, where halves are rounded up. -/
def overflows (digits : List Char) (exponent : Int) : Bool :=
  let limit := 1 <<< 1024 - 1 <<< 970
  let scale := Nat.pow 10 exponent.natAbs
  let digits := digits.dropWhile (· == '0')
  let size := digits.length + exponent
  if digits.isEmpty || size < 300 then false
  else if 320 < size then true
  else if exponent < 0 then limit * scale ≤ numberOf 10 digits
  else limit ≤ numberOf 10 digits * scale

/-- The parts of a number that is written with a fraction or an exponent. -/
structure Decimal where
  negative : Bool
  whole : List Char
  fraction : List Char
  exponent : Int

/-- A decimal number in its parts, of which the fraction or the exponent must be there. -/
def splitDecimal? (cs : List Char) : Option Decimal := do
  let (negative, cs) := splitSign cs
  let isPart (c : Char) : Bool := c.isDigit || c == '_'
  let whole ← wholeDigits? (cs.takeWhile isPart)
  let exponent? : List Char → Option Int
    | [] => some 0
    | c :: cs =>
      if c == 'e' || c == 'E' then
        let (negative, ds) := splitSign cs
        (digits? 10 ds).map fun ds =>
          if negative then -(numberOf 10 ds : Int) else numberOf 10 ds
      else none
  match cs.dropWhile isPart with
  | [] => none
  | '.' :: cs =>
    let fraction ← digits? 10 (cs.takeWhile isPart)
    return { negative, whole, fraction, exponent := ← exponent? (cs.dropWhile isPart) }
  | cs => return { negative, whole, fraction := [], exponent := ← exponent? cs }

/-- Whether a text is a number that is not whole, an infinity, or no number. -/
def isDecimal (cs : List Char) : Bool :=
  ["inf", "nan"].contains (String.ofList (splitSign cs).2) ||
    (splitDecimal? cs).any fun d =>
      d.negative || !overflows (d.whole ++ d.fraction) (d.exponent - d.fraction.length)

/-! ## Dates and times -/

/-- The number that the first `count` characters write in decimal digits, and what stands after
them. -/
def leadingNumber? (count : Nat) (cs : List Char) : Option (Nat × List Char) :=
  let digits := cs.take count
  if digits.length = count ∧ digits.all Char.isDigit then some (numberOf 10 digits, cs.drop count)
  else none

def isLeapYear (year : Nat) : Bool := year % 4 == 0 && (year % 100 != 0 || year % 400 == 0)

def daysInMonth (year month : Nat) : Nat :=
  if month == 2 then if isLeapYear year then 29 else 28
  else if [4, 6, 9, 11].contains month then 30
  else 31

/-- What stands after a date in front of a text. -/
def afterDate? (cs : List Char) : Option (List Char) := do
  let (year, '-' :: cs) ← leadingNumber? 4 cs | none
  let (month, '-' :: cs) ← leadingNumber? 2 cs | none
  let (day, cs) ← leadingNumber? 2 cs
  guard (1 ≤ month ∧ month ≤ 12 ∧ 1 ≤ day ∧ day ≤ daysInMonth year month)
  return cs

/-- What stands after hours and minutes in front of a text. -/
def afterMinutes? (cs : List Char) : Option (List Char) := do
  let (hour, ':' :: cs) ← leadingNumber? 2 cs | none
  let (minute, cs) ← leadingNumber? 2 cs
  guard (hour < 24 ∧ minute < 60)
  return cs

/-- What stands after a time of day in front of a text. The sixtieth second is one that is put
in. -/
def afterTime? (cs : List Char) : Option (List Char) := do
  let ':' :: cs ← afterMinutes? cs | none
  let (second, cs) ← leadingNumber? 2 cs
  guard (second ≤ 60)
  match cs with
  | '.' :: cs => if cs.head?.any Char.isDigit then return cs.dropWhile Char.isDigit else none
  | cs => return cs

def isOffset : List Char → Bool
  | [] => true
  | [c] => c == 'Z' || c == 'z'
  | c :: cs => (c == '+' || c == '-') && afterMinutes? cs == some []

def isDate (cs : List Char) : Bool := afterDate? cs == some []

def isTime (cs : List Char) : Bool := afterTime? cs == some []

def isTimeWithOffset (cs : List Char) : Bool := (afterTime? cs).any isOffset

/-- Whether a text without space is a date, a time, or both. -/
def isMoment (cs : List Char) : Bool :=
  isTime cs ||
    match afterDate? cs with
    | some [] => true
    | some (c :: cs) => (c == 'T' || c == 't') && isTimeWithOffset cs
    | none => false

/-- Whether a text begins as the time does that follows a date after a space. -/
def beginsTime : List Char → Bool
  | ' ' :: a :: b :: ':' :: _ => a.isDigit && b.isDigit
  | _ => false

end PathRoute.Toml
