import PathRoute.Regex.Basic

/-!
# Programs and how they are run

An expression becomes a list of instructions for a matcher. Every instruction says which one comes
next, so that the code of an expression can be placed in front of any continuation:
`code a start next` stands at the addresses from `start` on and leaves to `next`.

A program is run depth first: of two ways the preferred one is followed to its end before the other
is tried, and no instruction is tried twice at one position, since it would fail again. The first
way to reach the end is the match.
-/

namespace PathRoute.Regex

/-! ## Programs -/

/-- One step of matching. -/
inductive Inst where
  /-- Take one character of a class. -/
  | char (a : CharClass) (next : Nat)
  | look (l : Look) (next : Nat)
  | jump (next : Nat)
  /-- Go either way, the first one for preference. -/
  | split (first second : Nat)
  /-- Note the position under a slot. -/
  | save (slot : Nat) (next : Nat)
  | accept
  deriving DecidableEq, Repr

abbrev Program := List Inst

/-- How many instructions the code of an expression has. -/
def size : Regex → Nat
  | .empty | .char _ | .look _ => 1
  | .seq a b => a.size + b.size
  | .alt a b => a.size + b.size + 1
  | .plus _ a => a.size + 1
  | .group _ a => a.size + 2

/-- The code of an expression from an address on. It leaves to `next`. -/
def code : Regex → (start next : Nat) → Program
  | .empty, _, next => [.jump next]
  | .char a, _, next => [.char a next]
  | .look l, _, next => [.look l next]
  | .seq a b, start, next => a.code start (start + a.size) ++ b.code (start + a.size) next
  | .alt a b, start, next =>
    .split (start + 1) (start + 1 + a.size) ::
      (a.code (start + 1) next ++ b.code (start + 1 + a.size) next)
  | .plus greedy a, start, next =>
    a.code start (start + a.size) ++
      [if greedy then .split start next else .split next start]
  | .group i a, start, next =>
    .save (2 * i) (start + 1) ::
      (a.code (start + 1) (start + 1 + a.size) ++ [.save (2 * i + 1) next])

@[simp] theorem length_code (a : Regex) (start next : Nat) :
    (a.code start next).length = a.size := by
  induction a generalizing start next with
  | empty | char | look => rfl
  | seq a b iha ihb => simp [code, size, iha, ihb]
  | alt a b iha ihb => simp [code, size, iha, ihb]
  | plus g a ih => simp [code, size, ih]
  | group i a ih => simp [code, size, ih]

/-- The program of an expression, which accepts where its code ends. -/
def program (a : Regex) : Program := a.code 0 a.size ++ [.accept]

/-! ## Searching -/

/-- The positions noted on a way, the latest first. -/
abbrev Marks := List (Nat × Nat)

/-- A way that has been begun: the next instruction, the position, and what has been noted. -/
structure Thread where
  addr : Nat
  pos : Nat
  marks : Marks

/-- The instruction at a thread's address, carried out. An empty answer is a dead end. -/
def Thread.advance (text : Array Char) (t : Thread) : Inst → List Thread
  | .char a next =>
    match text[t.pos]? with
    | some c => if a.contains c then [{ t with addr := next, pos := t.pos + 1 }] else []
    | none => []
  | .look l next =>
    let before := if t.pos = 0 then none else text[t.pos - 1]?
    if l.holds before text[t.pos]? then [{ t with addr := next }] else []
  | .jump next => [{ t with addr := next }]
  | .split first second => [{ t with addr := first }, { t with addr := second }]
  | .save slot next => [{ t with addr := next, marks := (slot, t.pos) :: t.marks }]
  | .accept => []

theorem Thread.length_advance (text : Array Char) (t : Thread) (i : Inst) :
    (t.advance text i).length ≤ 2 := by
  cases i <;> simp only [advance] <;> (repeat' split) <;> simp

/-- The pairs of an instruction and a position that have been tried. -/
abbrev Visited := Array Bool

/-- The number of a thread's instruction and position, where a text has `width` positions. -/
def Thread.key (width : Nat) (t : Thread) : Nat := t.addr * width + t.pos

theorem count_false_set {v : Visited} {i : Nat} (h : i < v.size) (hv : v[i] = false) :
    (v.set i true).count false + 1 = v.count false := by
  have hpos : 0 < v.count false := Array.count_pos_iff.mpr (hv ▸ Array.getElem_mem h)
  rw [Array.count_set h]
  simp [hv]
  omega

/-- Follow threads, the first one first, and give what was noted on the first way to the end. -/
def explore (prog : Array Inst) (text : Array Char) (visited : Visited) :
    List Thread → Option Marks
  | [] => none
  | t :: rest =>
    if h : t.key (text.size + 1) < visited.size then
      if hv : visited[t.key (text.size + 1)] = false then
        match prog[t.addr]? with
        | some .accept => some t.marks
        | some i =>
          explore prog text (visited.set (t.key (text.size + 1)) true) (t.advance text i ++ rest)
        | none => explore prog text visited rest
      else explore prog text visited rest
    else explore prog text visited rest
termination_by ts => 2 * visited.count false + ts.length
decreasing_by
  · have := count_false_set h hv
    have := t.length_advance text i
    simp only [List.length_append, List.length_cons]
    omega
  all_goals simp

/-- What is noted on the preferred way through a program that starts at the text's front. -/
def execute (prog : Program) (text : List Char) : Option Marks :=
  explore prog.toArray text.toArray (.replicate (prog.length * (text.length + 1)) false)
    [⟨0, 0, []⟩]

/-- The expression wherever it matches first, as the group with number zero. -/
def anywhere (a : Regex) : Regex := .seq (star false (.char .any)) (.group 0 a)

/-- What the groups of an expression captured: for each group the place of its text. -/
abbrev Captures := List (Option (Nat × Nat))

/-- The places of the groups from zero up to a number. -/
def Marks.captures (m : Marks) (groups : Nat) : Captures :=
  (List.range (groups + 1)).map fun i =>
    match m.lookup (2 * i), m.lookup (2 * i + 1) with
    | some first, some last => some (first, last)
    | _, _ => none

/-- The leftmost match in a text: the place of the whole match and of every group. -/
def captures (a : Regex) (text : List Char) : Option Captures :=
  (execute a.anywhere.program text).map (·.captures a.groupCount)

/-- The text at a place. -/
def textAt (text : List Char) (place : Nat × Nat) : List Char :=
  (text.take place.2).drop place.1

end PathRoute.Regex
