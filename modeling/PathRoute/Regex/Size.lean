import PathRoute.Regex.Parser.Basic
import PathRoute.Text.CharClass

/-!
# Sizes of expressions

How much room an expression takes as an automaton over bytes, with a state for each byte or range of
bytes that it matches. The room is limited.
-/

namespace PathRoute

/-! ## Ranges of codes as ranges of bytes

A range of codes falls into parts in whose UTF-8 forms the bytes at each place run through one
range, whatever the bytes at the other places are. -/

namespace Utf8

/-- How many bytes a code takes. -/
def width (n : Nat) : Nat :=
  if n < 0x80 then 1 else if n < 0x800 then 2 else if n < 0x10000 then 3 else 4

/-- Where the codes from `lo` to `hi` have to be cut: the first code of the second piece. -/
def cut? (lo hi : Nat) : Option Nat :=
  ([0x80, 0x800, 0x10000].find? fun limit => lo < limit && limit ≤ hi) <|>
    if hi < 0x80 then none
    else [0x40, 0x1000, 0x40000].findSome? fun m =>
      if lo / m = hi / m then none
      else if lo % m ≠ 0 then some ((lo / m + 1) * m)
      else if hi % m ≠ m - 1 then some (hi / m * m)
      else none

/-- The parts of the codes from `lo` to `hi`. -/
def parts (lo hi : Nat) : List (Nat × Nat) :=
  match cut? lo hi with
  | none => [(lo, hi)]
  | some c => if _h : lo < c ∧ c ≤ hi then parts lo (c - 1) ++ parts c hi else [(lo, hi)]
termination_by hi - lo
decreasing_by all_goals omega

/-- How many bytes at the front two parts have in common. -/
def sharedPlaces (p q : Nat × Nat) : Nat :=
  if width p.1 ≠ width q.1 then 0
  else ((List.range (width p.1)).filter fun i =>
    p.1 >>> (6 * i) = q.1 >>> (6 * i) ∧ p.2 >>> (6 * i) = q.2 >>> (6 * i)).length

/-- How many places parts in order have, where those that are shared with the part before are
counted once. -/
def placeCount : List (Nat × Nat) → Nat
  | [] => 0
  | [p] => width p.1
  | p :: q :: rest => width p.1 - sharedPlaces p q + placeCount (q :: rest)

end Utf8

/-! ## Classes -/

/-- How many bytes a state takes, apart from the ways out of it. -/
def stateSize : Nat := 32

/-- How many bytes each of the alternatives takes that lead out of one state. -/
def waySize : Nat := 4

/-- How many bytes each of the ranges takes that lead out of one state. -/
def rangeSize : Nat := 8

namespace CharClass

/-- The room for one character of a class. -/
def size (a : CharClass) : Nat :=
  match CodeRanges.both a.toRanges [(0, 0xD7FF), (0xE000, 0x10FFFF)] with
  | [] => stateSize
  | r =>
    if r.all fun p => p.2 < 0x80 then 2 * stateSize + rangeSize * r.length
    else
      let parts := r.flatMap fun p => Utf8.parts p.1 p.2
      (2 + Utf8.placeCount parts) * stateSize + waySize * parts.length

/-- How many tables a class is put together from. Letters that are added for their case count as a
table of their own. -/
def tables : CharClass → Nat
  | .ranges _ => 1
  | .compl a => a.tables
  | .union a b | .inter a b | .diff a b | .symmDiff a b => a.tables + b.tables
  | .caseless a | .asciiCaseless a => a.tables + 1

/-- More room than a table takes, with nearly as much again for what an operation on it adds. The
greatest table that has a name is the one of Grapheme_Base, with 55856 bytes; one that is written
out has a single range, which falls into 16 parts at most. -/
def ampleSize : Nat := 100 * 1024

end CharClass

/-! ## Expressions -/

namespace Regex

/-- How much room an expression takes: its states, the alternatives that lead out of them, and how
often it holds each class. -/
structure Size where
  states : Nat := 0
  ways : Nat := 0
  classes : List (CharClass × Nat) := []

namespace Size

def ofStates (n : Nat) : Size := { states := n }

/-- The size of one character of a class. -/
def ofClass : CharClass → Size
  | .ranges [(lo, hi)] =>
    if lo = hi then ofStates (Utf8.width lo) else { classes := [(.ranges [(lo, hi)], 1)] }
  | a => { classes := [(a, 1)] }

/-- What `n` alternatives take beside themselves: a state to go to each of them from, and one where
they meet again. -/
def fork (n : Nat) : Size := { states := 2, ways := n }

/-- What repetitions take beside the rounds. Each round that may be left out has a state to go past
it from, to the one where they all end; without a greatest number only the last has one. -/
def rounds (min : Nat) : Option Nat → Size
  | some max => { states := max - min + 1, ways := 2 * (max - min) }
  | none => { states := 1, ways := 2 }

def add (s t : Size) : Size := ⟨s.states + t.states, s.ways + t.ways, s.classes ++ t.classes⟩

def times (s : Size) (n : Nat) : Size :=
  ⟨s.states * n, s.ways * n, s.classes.map fun (a, k) => (a, k * n)⟩

/-- The room that the states take. -/
def stateBytes (s : Size) : Nat := s.states * stateSize + s.ways * waySize

/-- The room in bytes. -/
def bytes (s : Size) : Nat :=
  let kinds := (s.classes.map (·.1)).eraseDups
  let sizes := kinds.map fun a => (a, a.size)
  s.classes.foldl (fun n (a, k) => n + ((sizes.lookup a).getD 0) * k) s.stateBytes

/-- Less room, and more room, than an expression takes, with a fixed amount for each class and for
each table. -/
def leastBytes (s : Size) : Nat :=
  s.classes.foldl (fun n (_, k) => n + stateSize * k) s.stateBytes

def ampleBytes (s : Size) : Nat :=
  s.classes.foldl (fun n (a, k) => n + a.tables * CharClass.ampleSize * k) s.stateBytes

/-- Whether there is not enough room. The room is measured only where it may matter. -/
def exceeds (s : Size) : Bool :=
  maxSize < s.leastBytes || (maxSize < s.ampleBytes && maxSize < s.bytes)

end Size

end Regex

end PathRoute
