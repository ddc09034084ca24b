import PathRoute.Text.CharClass

/-!
# Regular expressions

Expressions over characters with captures. Repetition comes down to one loop, `plus`: the other
forms are put together from it, with the preferred alternative first.
-/

namespace PathRoute

/-- The sides of a word that a position can be asked about. -/
inductive WordEdge where
  | boundary | inside | start | stop | startHalf | stopHalf
  deriving DecidableEq, Repr

/-- A condition on the position between two characters. -/
inductive Look where
  | textStart
  | textEnd
  /-- The start of a line. With `crlf` a line ends in `\r`, `\n` or both together. -/
  | lineStart (crlf : Bool)
  | lineEnd (crlf : Bool)
  | word (edge : WordEdge) (ascii : Bool)
  deriving DecidableEq, Repr

inductive Regex where
  | empty
  /-- One character of a class. -/
  | char (a : CharClass)
  | look (l : Look)
  | seq (a b : Regex)
  /-- One of two; the first is tried first. -/
  | alt (a b : Regex)
  /-- Once or more. A greedy loop tries another round first. -/
  | plus (greedy : Bool) (a : Regex)
  /-- A capturing group and its number. -/
  | group (index : Nat) (a : Regex)
  deriving DecidableEq, Repr

namespace Look

/-- Whether a character is part of a word. -/
def isWord (ascii : Bool) (c : Char) : Bool :=
  if ascii then CharClass.Ascii.word.contains c else CharClass.word.contains c

/-- Whether the condition holds between two characters, either of which may be missing. -/
def holds : Look → (before after : Option Char) → Bool
  | .textStart, b, _ => b.isNone
  | .textEnd, _, a => a.isNone
  | .lineStart false, b, _ => b.isNone || b == some '\n'
  | .lineStart true, b, a =>
    b.isNone || b == some '\n' || (b == some '\r' && a != some '\n')
  | .lineEnd false, _, a => a.isNone || a == some '\n'
  | .lineEnd true, b, a =>
    a.isNone || a == some '\r' || (a == some '\n' && b != some '\r')
  | .word edge ascii, b, a =>
    let before := b.any (isWord ascii)
    let after := a.any (isWord ascii)
    match edge with
    | .boundary => before != after
    | .inside => before == after
    | .start => !before && after
    | .stop => before && !after
    | .startHalf => !before
    | .stopHalf => !after

end Look

namespace Regex

/-- One given character. -/
def single (c : Char) : Regex := .char (.single c)

/-- All of a list, one after the other. -/
def seqs : List Regex → Regex
  | [] => .empty
  | [a] => a
  | a :: as => .seq a (seqs as)

/-- One of a list. The first is tried first. -/
def alts : List Regex → Regex
  | [] => .empty
  | [a] => a
  | a :: as => .alt a (alts as)

/-- Once or not at all. -/
def opt (greedy : Bool) (a : Regex) : Regex :=
  if greedy then .alt a .empty else .alt .empty a

/-- Any number of times. -/
def star (greedy : Bool) (a : Regex) : Regex := opt greedy (.plus greedy a)

/-- A number of times. -/
def exactly (a : Regex) : Nat → Regex
  | 0 => .empty
  | 1 => a
  | n + 2 => .seq a (exactly a (n + 1))

/-- Up to a number of times. -/
def upTo (greedy : Bool) (a : Regex) : Nat → Regex
  | 0 => .empty
  | 1 => opt greedy a
  | n + 2 => opt greedy (.seq a (upTo greedy a (n + 1)))

/-- At least a number of times. -/
def atLeast (greedy : Bool) (a : Regex) : Nat → Regex
  | 0 => star greedy a
  | 1 => .plus greedy a
  | n + 2 => .seq a (atLeast greedy a (n + 1))

/-- From `min` to `max` times. Groups of an expression that stands no times at all are gone. -/
def repeats (greedy : Bool) (a : Regex) (min : Nat) : (max : Option Nat) → Regex
  | none => atLeast greedy a min
  | some max =>
    if min = 0 then upTo greedy a max
    else if max ≤ min then exactly a min
    else .seq (exactly a min) (upTo greedy a (max - min))

/-- The greatest number of a group, which counts the groups where they are numbered from one. -/
def groupCount : Regex → Nat
  | .empty | .char _ | .look _ => 0
  | .seq a b | .alt a b => max a.groupCount b.groupCount
  | .plus _ a => a.groupCount
  | .group i a => max i a.groupCount

end Regex

end PathRoute
