/-!
# Code ranges

A set of characters, written as the ranges of code points that it covers. Both ends of a range
belong to it.
-/

namespace PathRoute

/-- A set of characters as ranges of code points. -/
abbrev CodeRanges := List (Nat × Nat)

namespace CodeRanges

/-- Whether a code point stands in one of the ranges. -/
def holds (r : CodeRanges) (n : Nat) : Bool :=
  r.any fun p => p.1 ≤ n && n ≤ p.2

/-- Whether a character stands in one of the ranges. -/
def contains (r : CodeRanges) (c : Char) : Bool := r.holds c.toNat

/-- The set of one character. -/
def single (c : Char) : CodeRanges := [(c.toNat, c.toNat)]

@[simp] theorem contains_nil (c : Char) : contains [] c = false := rfl

@[simp] theorem contains_append (r s : CodeRanges) (c : Char) :
    contains (r ++ s) c = (contains r c || contains s c) := by
  simp [contains, holds]

theorem contains_single (a c : Char) : (single a).contains c = true ↔ c = a := by
  simp only [contains, holds, single, List.any_cons, List.any_nil, Bool.or_false, Bool.and_eq_true,
    decide_eq_true_eq]
  constructor
  · intro h
    exact Char.toNat_inj.mp (by omega)
  · rintro rfl
    omega

end CodeRanges

end PathRoute
