import PathRoute.Text.CaseFold
import PathRoute.Text.Category
import PathRoute.Text.Property.Ranges

/-!
# Character classes

Sets of characters put together from code ranges by the operations of sets and by case folding, and
the sorted ranges of such a set.
-/

namespace PathRoute

/-- A set of characters. -/
inductive CharClass where
  | ranges (r : CodeRanges)
  | compl (a : CharClass)
  | union (a b : CharClass)
  | inter (a b : CharClass)
  | diff (a b : CharClass)
  | symmDiff (a b : CharClass)
  /-- The characters that differ from a member in case only. -/
  | caseless (a : CharClass)
  /-- The members, and the ASCII letters that differ from a member in case only. -/
  | asciiCaseless (a : CharClass)
  deriving DecidableEq, Repr

namespace CharClass

/-- Whether the class holds a code point. -/
def holds : CharClass → Nat → Bool
  | .ranges r, n => r.holds n
  | .compl a, n => !a.holds n
  | .union a b, n => a.holds n || b.holds n
  | .inter a b, n => a.holds n && b.holds n
  | .diff a b, n => a.holds n && !b.holds n
  | .symmDiff a b, n => a.holds n != b.holds n
  | .caseless a, n => a.holds n || (CaseFold.variants n).any a.holds
  | .asciiCaseless a, n =>
    a.holds n || (0x41 ≤ n && n ≤ 0x5A && a.holds (n + 0x20)) ||
      (0x61 ≤ n && n ≤ 0x7A && a.holds (n - 0x20))

/-- Whether the class holds a character. -/
def contains (a : CharClass) (c : Char) : Bool := a.holds c.toNat

/-- The class of one character. -/
def single (c : Char) : CharClass := .ranges (CodeRanges.single c)

/-- The class of every character. -/
def any : CharClass := .ranges [(0, 0x10FFFF)]

/-- The class of the characters of some categories. -/
def ofCategories (cs : List Category) : CharClass := .ranges (Category.rangesOf cs)

/-- The members of all the classes. -/
def unions (as : List CharClass) : CharClass := as.foldr .union (.ranges [])

theorem contains_single (a c : Char) : (single a).contains c = true ↔ c = a :=
  CodeRanges.contains_single a c

@[simp] theorem contains_union (a b : CharClass) (c : Char) :
    (union a b).contains c = (a.contains c || b.contains c) := rfl

@[simp] theorem contains_compl (a : CharClass) (c : Char) :
    (compl a).contains c = !a.contains c := rfl

theorem contains_any (c : Char) : any.contains c = true := by
  have := c.valid
  simp only [contains, any, holds, CodeRanges.holds, List.any_cons, List.any_nil, Bool.or_false,
    Bool.and_eq_true, decide_eq_true_eq]
  simp only [UInt32.isValidChar, Nat.isValidChar, Char.toNat] at *
  omega

/-! ## Digits, blanks and words -/

def digit : CharClass := .ranges Category.Ranges.decimalNumber

def blank : CharClass := .ranges Property.Ranges.whiteSpace

/-- Letters, marks, digits, connecting punctuation and the characters that join or part letters. -/
def word : CharClass := .ranges <|
  Category.rangesOf (Category.letters ++ [.letterNumber]) ++ Property.Ranges.otherAlphabetic ++
    Category.rangesOf (Category.marks ++ [.decimalNumber, .connectorPunctuation]) ++
    Property.Ranges.joinControl

namespace Ascii

def lower : CodeRanges := [(0x61, 0x7A)]
def upper : CodeRanges := [(0x41, 0x5A)]
def alpha : CodeRanges := upper ++ lower
def digit : CodeRanges := [(0x30, 0x39)]
def alnum : CodeRanges := digit ++ alpha
def ascii : CodeRanges := [(0, 0x7F)]
def blank : CodeRanges := [(0x09, 0x09), (0x20, 0x20)]
def cntrl : CodeRanges := [(0, 0x1F), (0x7F, 0x7F)]
def graph : CodeRanges := [(0x21, 0x7E)]
def print : CodeRanges := [(0x20, 0x7E)]
def punct : CodeRanges := [(0x21, 0x2F), (0x3A, 0x40), (0x5B, 0x60), (0x7B, 0x7E)]
def space : CodeRanges := [(0x09, 0x0D), (0x20, 0x20)]
def word : CodeRanges := alnum ++ [(0x5F, 0x5F)]
def xdigit : CodeRanges := digit ++ [(0x41, 0x46), (0x61, 0x66)]

/-- The ASCII class of a name. -/
def named? : String → Option CodeRanges
  | "alnum" => some alnum
  | "alpha" => some alpha
  | "ascii" => some ascii
  | "blank" => some blank
  | "cntrl" => some cntrl
  | "digit" => some digit
  | "graph" => some graph
  | "lower" => some lower
  | "print" => some print
  | "punct" => some punct
  | "space" => some space
  | "upper" => some upper
  | "word" => some word
  | "xdigit" => some xdigit
  | _ => none

end Ascii

end CharClass

/-! ## The ranges of a class, sorted and apart from each other -/

namespace CodeRanges

/-- The ranges sorted, with those joined that touch each other. -/
def sorted (r : CodeRanges) : CodeRanges :=
  join (r.mergeSort fun p q => p.1 ≤ q.1)
where
  join : CodeRanges → CodeRanges
    | [] => []
    | [p] => [p]
    | p :: q :: rest =>
      if q.1 ≤ p.2 + 1 then join ((p.1, max p.2 q.2) :: rest) else p :: join (q :: rest)
  termination_by r => r.length

/-- The code points from `start` on that stand in none of sorted ranges. -/
def gaps (start : Nat) : CodeRanges → CodeRanges
  | [] => if start ≤ 0x10FFFF then [(start, 0x10FFFF)] else []
  | p :: rest =>
    if start < p.1 then (start, p.1 - 1) :: gaps (p.2 + 1) rest else gaps (p.2 + 1) rest

/-- The code points that stand in both of sorted ranges. -/
def both (r s : CodeRanges) : CodeRanges := gaps 0 (sorted (gaps 0 r ++ gaps 0 s))

end CodeRanges

namespace CharClass

open CodeRanges

/-- The code points that differ from others in case. -/
def cased : List Nat :=
  CaseFold.runs.flatMap fun r =>
    (List.range ((r.last - r.first) / r.step + 1)).flatMap fun i =>
      let n := r.first + i * r.step
      [n, CaseFold.fold n]

/-- The ranges of a class. -/
def toRanges : CharClass → CodeRanges
  | .ranges r => sorted r
  | .compl a => gaps 0 a.toRanges
  | .union a b => sorted (a.toRanges ++ b.toRanges)
  | .inter a b => both a.toRanges b.toRanges
  | .diff a b => both a.toRanges (gaps 0 b.toRanges)
  | .symmDiff a b =>
    let r := a.toRanges
    let s := b.toRanges
    sorted (both r (gaps 0 s) ++ both s (gaps 0 r))
  | .caseless a =>
    let r := a.toRanges
    sorted (r ++ (cased.filter fun n => (CaseFold.variants n).any r.holds).map fun n => (n, n))
  | .asciiCaseless a =>
    let r := a.toRanges
    sorted (r ++ ((List.range 0x80).filter (CharClass.asciiCaseless (.ranges r)).holds).map
      fun n => (n, n))

end CharClass

end PathRoute
