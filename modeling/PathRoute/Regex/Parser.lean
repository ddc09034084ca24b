import PathRoute.Regex.Parser.Bracket
import PathRoute.Regex.Size

/-!
# The grammar of regular expressions

An expression is read from left to right, with a stack of the groups that are open. Each part keeps
how deep its parts stand in each other and how much room it takes, since both are limited.
-/

namespace PathRoute.Regex

/-- A part of an expression. -/
structure Part where
  regex : Regex
  depth : Nat := 0
  size : Size := .ofStates 1
  /-- A change of flags, which cannot be repeated. -/
  setting : Bool := false

namespace Part

def depthOf (ps : List Part) : Nat := (ps.map (·.depth)).foldl max 0 + 1

def sizeOf (ps : List Part) : Size := ps.foldl (fun s p => p.size.add s) {}

/-- Parts, last first, one after the other. -/
def sequence : List Part → Part
  | [] => { regex := .empty }
  | [p] => p
  | ps => { regex := seqs (ps.reverse.map (·.regex)), depth := depthOf ps, size := sizeOf ps }

/-- Alternatives, last first. -/
def alternatives : List Part → Part
  | [] => { regex := .empty }
  | [p] => p
  | ps => {
      regex := alts (ps.reverse.map (·.regex))
      depth := depthOf ps
      size := (Size.fork ps.length).add (sizeOf ps) }

def group (index : Option Nat) (p : Part) : Part :=
  { regex := match index with
      | some i => .group i p.regex
      | none => p.regex
    depth := p.depth + 1
    size := (Size.ofStates (if index.isSome then 2 else 0)).add p.size }

/-- A part from `min` to `max` times. -/
def repeated (p : Part) (greedy : Bool) (min : Nat) (max : Option Nat) : Read Part :=
  let size := (Size.rounds min max).add (p.size.times (max.getD (Nat.max min 1)))
  if size.exceeds then .fail .tooLarge
  else pure { regex := repeats greedy p.regex min max, depth := p.depth + 1, size }

end Part

/-- The alternatives of a group, last first, the one at hand apart as a list of its parts. -/
structure Branches where
  done : List Part := []
  parts : List Part := []

namespace Branches

def push (b : Branches) (p : Part) : Branches := { b with parts := p :: b.parts }

/-- Begin the next alternative. -/
def alternate (b : Branches) : Branches := { done := Part.sequence b.parts :: b.done }

def close (b : Branches) : Part := Part.alternatives (Part.sequence b.parts :: b.done)

end Branches

/-- A group that is open: what stands before it, the flags in force there, and its number. -/
structure OpenGroup where
  before : Branches
  flags : Flags
  index : Option Nat

structure ParseState where
  flags : Flags := {}
  current : Branches := {}
  outer : List OpenGroup := []
  /-- How many capturing groups have been opened. -/
  groups : Nat := 0
  names : List (List Char) := []

namespace ParseState

def push (s : ParseState) (p : Part) : ParseState := { s with current := s.current.push p }

def pushClass (s : ParseState) (a : CharClass) : ParseState :=
  s.push { regex := .char a, size := .ofClass a }

/-- Open a capturing group. -/
def capture (s : ParseState) : ParseState :=
  { s with
    current := {}
    outer := ⟨s.current, s.flags, some (s.groups + 1)⟩ :: s.outer
    groups := s.groups + 1 }

end ParseState

/-- The regular expression for a character as it stands. -/
def literal (f : Flags) (c : Char) (byte : Bool) : Read CharClass :=
  if f.unicode then pure (f.fold (.single c))
  else if byte && 0x80 ≤ c.toNat then .fail .needsUnicode
  else pure (f.fold (.single c))

/-- The characters that a dot stands for. -/
def dot (f : Flags) : CharClass :=
  if f.dotAll then .any
  else if f.crlf then .compl (.ranges [(0x0A, 0x0A), (0x0D, 0x0D)])
  else .compl (.single '\n')

/-- Repeat the last part. -/
def repeatLast (s : ParseState) (min : Nat) (max : Option Nat) (lazy : Bool) : Read ParseState :=
  match s.current.parts with
  | [] => .fail .missingOperand
  | p :: before => do
    if p.setting then .fail .missingOperand
    let p ← p.repeated (lazy == s.flags.swapGreed) min max
    return { s with current := { s.current with parts := p :: before } }

/-- A decimal number with blank characters around it, below 2^32. -/
def readCount (f : Flags) : Read (Option Nat) := do
  Reader.skipWhile isBlank
  let n ← Reader.repeatWhile (fun _ c => c.isDigit)
    (fun n c => do skipBlanks f; pure (some (n.getD 0 * 10 + (c.toNat - '0'.toNat)))) none
  let _ ← Reader.repeatWhile (fun _ c => isBlank c) (fun _ _ => skipBlanks f) ()
  if 0x100000000 ≤ n.getD 0 then .fail .badCount
  return n

/-- The bounds of a repetition, after the opening brace. -/
def readCounts (f : Flags) : Read (Nat × Option Nat) := do
  skipBlanks f
  let least ← readCount f
  let c ← Reader.next .badCount
  let some least := least | .fail .badCount
  if c == '}' then return (least, some least)
  if c != ',' then .fail .badCount
  skipBlanks f
  if ← Reader.skipText "\x7d" then return (least, none)
  let some most ← readCount f | .fail .badCount
  if (← Reader.next .badCount) != '}' || most < least then .fail .badCount
  return (least, some most)

/-- The name of a group, up to the angle bracket that ends it. -/
def readGroupName : Read (List Char) := do
  let name ← Reader.repeatWhile (fun _ c => c != '>')
    (fun name c =>
      if c == '_' || isAlphabetic c ||
          (!name.isEmpty && (c == '.' || c == '[' || c == ']' || isNumeric c))
      then pure (c :: name) else .fail .badGroupName) []
  let _ ← Reader.next .badGroupName
  if name.isEmpty then .fail .badGroupName
  return name.reverse

/-- The letters of a change of flags, each with whether it is set, last first. -/
structure FlagList where
  flags : List (Char × Bool) := []
  negated : Bool := false
  /-- The last character was the negation sign. -/
  dangling : Bool := false

def readFlags : Read FlagList := do
  let fs ← Reader.repeatWhile (fun _ c => c != ':' && c != ')')
    (fun fs c =>
      if c == '-' then
        if fs.negated then .fail .badFlags else pure { fs with negated := true, dangling := true }
      else if Flags.letters.contains c && (fs.flags.lookup c).isNone then
        pure { fs with flags := (c, !fs.negated) :: fs.flags, dangling := false }
      else .fail .badFlags) {}
  if fs.dangling then .fail .badFlags
  return fs

def Flags.apply (f : Flags) (fs : FlagList) : Flags :=
  fs.flags.foldl (fun f (letter, value) => f.set letter value) f

/-- What an opening parenthesis introduces: a capturing group, a group without a capture, or a
change of flags up to the end of the group at hand. -/
def openGroup (s : ParseState) : Read ParseState := do
  skipBlanks s.flags
  match ← Reader.ahead with
  | '?' :: '=' :: _ | '?' :: '!' :: _ => .fail .unsupported
  | '?' :: '<' :: '=' :: _ | '?' :: '<' :: '!' :: _ => .fail .unsupported
  | '?' :: 'P' :: '<' :: _ => Reader.skip 3; named
  | '?' :: '<' :: _ => Reader.skip 2; named
  | '?' :: _ =>
    Reader.skip 1
    let fs ← readFlags
    let flags := s.flags.apply fs
    if (← Reader.next .badFlags) == ':' then
      return { s with flags, current := {}, outer := ⟨s.current, s.flags, none⟩ :: s.outer }
    if fs.flags.isEmpty then .fail .missingOperand
    return { s.push { regex := .empty, setting := true } with flags }
  | _ => return s.capture
where
  named : Read ParseState := do
    let name ← readGroupName
    if s.names.contains name then .fail .duplicateGroupName
    return { s.capture with names := name :: s.names }

def closeGroup (s : ParseState) : Read ParseState :=
  match s.outer with
  | [] => .fail .unopenedGroup
  | g :: outer =>
    pure { s with
      flags := g.flags
      current := g.before.push (s.current.close.group g.index)
      outer }

/-- What a backslash introduces outside of classes. -/
def pushEscape (s : ParseState) : Read ParseState := do
  match ← readEscape s.flags with
  | .char c byte => return s.pushClass (← literal s.flags c byte)
  | .set a => return s.pushClass a
  | .look l => return s.push { regex := .look l }

/-- Go on from a character. -/
def step (s : ParseState) (c : Char) : Read ParseState := do
  let f := s.flags
  if f.verbose && isBlank c then return s
  if f.verbose && c == '#' then
    Reader.skipWhile (· != '\n')
    return s
  match c with
  | '(' => openGroup s
  | ')' => closeGroup s
  | '|' => return { s with current := s.current.alternate }
  | '[' =>
    let m ← readBracket f
    return s.push { regex := .char m.cls, depth := m.depth, size := .ofClass m.cls }
  | '?' => repeatLast s 0 (some 1) (← Reader.skipText "?")
  | '*' => repeatLast s 0 none (← Reader.skipText "?")
  | '+' => repeatLast s 1 none (← Reader.skipText "?")
  | '{' =>
    let (min, max) ← readCounts f
    skipBlanks f
    repeatLast s min max (← Reader.skipText "?")
  | '\\' => pushEscape s
  | '.' => if f.unicode then return s.pushClass (dot f) else .fail .needsUnicode
  | '^' =>
    return s.push { regex := .look (if f.multiLine then .lineStart f.crlf else .textStart) }
  | '$' => return s.push { regex := .look (if f.multiLine then .lineEnd f.crlf else .textEnd) }
  | c => return s.pushClass (← literal f c false)

/-- The end of the expression, where every group must be closed. -/
def finish (s : ParseState) : Except Error Regex :=
  if !s.outer.isEmpty then .error .unclosedGroup
  else
    let whole := s.current.close
    if maxDepth < whole.depth then .error .nestedTooDeep
    else if whole.size.exceeds then .error .tooLarge
    else .ok whole.regex

/-- The regular expression that a text describes. -/
def parse (text : String) : Except Error Regex := do
  let (s, _) ← (Reader.repeatWhile (fun _ _ => true) step {}).run text.toList
  finish s

end PathRoute.Regex
