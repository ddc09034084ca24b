import PathRoute.Regex.Parser.Escape

/-!
# Bracketed classes

Classes in brackets, which may stand in each other and be combined by the operations of sets.
-/

namespace PathRoute.Regex

/-- A class and how deep its parts stand in each other. -/
structure Nested where
  cls : CharClass
  depth : Nat := 0

inductive SetOp where
  | inter | diff | symmDiff
  deriving DecidableEq, Repr

namespace SetOp

def apply : SetOp → CharClass → CharClass → CharClass
  | .inter => .inter
  | .diff => .diff
  | .symmDiff => .symmDiff

/-- The operation that a character stands for when it is doubled. -/
def ofChar? : Char → Option SetOp
  | '&' => some .inter
  | '-' => some .diff
  | '~' => some .symmDiff
  | _ => none

end SetOp

/-- A class with its letter cases folded, or all but that. Without the flag for all characters it
must be left with ASCII characters alone. -/
def completed (f : Flags) (negated : Bool) (a : CharClass) : Read CharClass :=
  let cls := if negated then .compl (f.fold a) else f.fold a
  if !f.unicode && cls.holds 0x80 then .fail .needsUnicode else pure cls

/-- A class between its brackets: the members since the last operation, last first, and what
stands before that operation. -/
structure Bracket where
  negated : Bool
  members : List Nested
  pending : Option (SetOp × Nested) := none

namespace Bracket

/-- The members as one class. -/
def union (b : Bracket) : Nested :=
  match b.members with
  | [] => { cls := .ranges [] }
  | [m] => m
  | ms =>
    { cls := CharClass.unions (ms.reverse.map (·.cls))
      depth := (ms.map (·.depth)).foldl max 0 + 1 }

/-- All that has been read, with the operation carried out. -/
def value (f : Flags) (b : Bracket) : Nested :=
  match b.pending with
  | none => b.union
  | some (op, left) =>
    let right := b.union
    { cls := op.apply (f.fold left.cls) (f.fold right.cls)
      depth := max left.depth right.depth + 1 }

/-- The class that the closing bracket completes. -/
def close (f : Flags) (b : Bracket) : Read Nested := do
  let inner := b.value f
  return { cls := ← completed f b.negated inner.cls, depth := inner.depth + 1 }

def push (b : Bracket) (m : Nested) : Bracket := { b with members := m :: b.members }

end Bracket

/-- The character of a class member. -/
def memberChar (f : Flags) : Atom → Read Char
  | .char c _ => if f.unicode || c.toNat < 0x80 then pure c else .fail .needsUnicode
  | _ => .fail .badMember

/-- The class of a class member. -/
def memberClass (f : Flags) : Atom → Read CharClass
  | .set a => pure a
  | a => return .single (← memberChar f a)

/-- The beginning of a class, after its bracket: a negation, and the hyphens or the closing bracket
that stand first and for themselves. -/
def openBracket (f : Flags) : Read Bracket := do
  skipBlanks f
  let negated ← Reader.skipText "^"
  skipBlanks f
  let hyphens ← Reader.repeatWhile (fun _ c => c == '-')
    (fun ms _ => do skipBlanks f; pure ({ cls := .single '-' } :: ms)) []
  if !hyphens.isEmpty then return { negated, members := hyphens }
  if ← Reader.skipText "]" then
    skipBlanks f
    return { negated, members := [{ cls := .single ']' }] }
  return { negated, members := [] }

/-- An ASCII class given by its name. -/
structure NamedClass where
  members : CodeRanges
  negated : Bool
  /-- How many characters its name takes with what stands around it. -/
  width : Nat

/-- The ASCII class whose name in colons stands ahead, after its bracket. -/
def asciiClass? (cs : List Char) : Option NamedClass :=
  match cs with
  | ':' :: rest =>
    let negated := rest.head? == some '^'
    let rest := if negated then rest.drop 1 else rest
    let name := rest.takeWhile (· != ':')
    match rest.dropWhile (· != ':'), CharClass.Ascii.named? (.ofList name) with
    | ':' :: ']' :: _, some members =>
      some { members, negated, width := name.length + (if negated then 4 else 3) }
    | _, _ => none
  | _ => none

/-- The character after the hyphen that stands ahead. In a verbose expression blank characters are
passed over, and one comment sign. -/
def afterHyphen (f : Flags) (cs : List Char) : Option Char :=
  let rest := cs.drop 1
  if !f.verbose then rest.head?
  else
    let seen := match rest.dropWhile isBlank with
      | '#' :: more => more.dropWhile isBlank
      | more => more
    seen.head? <|> rest.head?

/-- An escape, or the character itself. -/
def readAtom (f : Flags) (c : Char) : Read Atom :=
  if c == '\\' then readEscape f else pure (.char c false)

/-- A member that starts with a character: a single one, or a range. -/
def readMember (f : Flags) (c : Char) : Read Nested := do
  let first ← readAtom f c
  skipBlanks f
  let cs ← Reader.ahead
  match cs with
  | [] => .fail .unclosedClass
  | hyphen :: _ =>
    let after := afterHyphen f cs
    if hyphen != '-' || after == some ']' || after == some '-' then
      return { cls := ← memberClass f first }
    Reader.skip 1
    skipBlanks f
    let last ← readAtom f (← Reader.next .unclosedClass)
    let a ← memberChar f first
    let b ← memberChar f last
    if b < a then .fail .badRange
    return { cls := .ranges [(a.toNat, b.toNat)] }

/-- The classes that are open, innermost first, or the whole class once it is closed. -/
inductive BracketState where
  | inside (inner : Bracket) (outer : List Bracket)
  | closed (whole : Nested)

/-- Go on from a character between the brackets. -/
def stepBracket (f : Flags) (b : Bracket) (outer : List Bracket) (c : Char) :
    Read BracketState := do
  let cs ← Reader.ahead
  if f.verbose && isBlank c then return .inside b outer
  if f.verbose && c == '#' then
    Reader.skipWhile (· != '\n')
    return .inside b outer
  match c with
  | '[' =>
    match asciiClass? cs with
    | some named =>
      Reader.skip named.width
      return .inside (b.push { cls := ← completed f named.negated (.ranges named.members) }) outer
    | none => return .inside (← openBracket f) (b :: outer)
  | ']' =>
    let whole ← b.close f
    match outer with
    | [] => return .closed whole
    | up :: outer => return .inside (up.push whole) outer
  | _ =>
    match SetOp.ofChar? c with
    | some op =>
      if cs.head? == some c then
        Reader.skip 1
        return .inside { b with members := [], pending := some (op, b.value f) } outer
      else return .inside (b.push (← readMember f c)) outer
    | none => return .inside (b.push (← readMember f c)) outer

def BracketState.isOpen : BracketState → Bool
  | .inside .. => true
  | .closed _ => false

/-- A bracketed class, after its opening bracket. -/
def readBracket (f : Flags) : Read Nested := do
  let go (s : BracketState) (c : Char) : Read BracketState :=
    match s with
    | .inside b outer => stepBracket f b outer c
    | .closed whole => pure (.closed whole)
  match ← Reader.repeatWhile (fun s _ => s.isOpen) go (.inside (← openBracket f) []) with
  | .inside .. => .fail .unclosedClass
  | .closed whole => pure whole

end PathRoute.Regex
