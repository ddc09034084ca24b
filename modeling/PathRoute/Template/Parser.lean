import PathRoute.Template.Basic
import PathRoute.Text.Character
import PathRoute.Text.Utf8

/-!
# Reading templates

A written template is cut into tokens: brackets, placeholders, and the text between them. An opening
angle bracket that begins no placeholder is text.

The tokens are checked from left to right, and the first fault decides. A sequence of tokens without
fault is put together from right to left, where a closing bracket begins a group and the opening one
ends it.
-/

namespace PathRoute.Template

/-! ## Tokens -/

inductive Token where
  | literal (cs : List Char)
  | placeholder (cs : List Char)
  | opens
  | closes
  deriving DecidableEq, Repr

namespace Token

/-- A token as it is written. -/
def print : Token → List Char
  | .literal cs => cs
  | .placeholder cs => '<' :: cs ++ ['>']
  | .opens => ['[']
  | .closes => [']']

/-- How many bytes a token takes in UTF-8. -/
def width (t : Token) : Nat := (Utf8.encode t.print).length

/-- The name that stands ahead with its closing bracket, after an opening one, and what follows. -/
def nameAhead? (cs : List Char) : Option (List Char × List Char) :=
  match cs.takeWhile isNameChar, cs.dropWhile isNameChar with
  | c :: name, '>' :: rest => some (c :: name, rest)
  | _, _ => none

theorem nameAhead?_eq_some {cs name rest : List Char} (h : nameAhead? cs = some (name, rest)) :
    cs = name ++ '>' :: rest := by
  rw [← List.takeWhile_append_dropWhile (p := isNameChar) (l := cs)]
  unfold nameAhead? at h
  split at h <;> simp_all

/-- A character in front of other tokens. It joins the text that follows it. -/
def consChar (c : Char) : List Token → List Token
  | .literal cs :: ts => .literal (c :: cs) :: ts
  | ts => .literal [c] :: ts

/-- The tokens of a written template. -/
def scan : List Char → List Token
  | [] => []
  | c :: cs =>
    match c with
    | '[' => .opens :: scan cs
    | ']' => .closes :: scan cs
    | '<' =>
      match _h : nameAhead? cs with
      | some (name, rest) => .placeholder name :: scan rest
      | none => consChar '<' (scan cs)
    | c => consChar c (scan cs)
termination_by cs => cs.length
decreasing_by
  all_goals simp_wf
  rw [nameAhead?_eq_some _h]
  simp
  omega

theorem print_consChar (c : Char) (ts : List Token) :
    (consChar c ts).flatMap print = c :: ts.flatMap print := by
  unfold consChar
  split <;> simp [print]

/-- The tokens of a text are that text. -/
theorem print_scan (cs : List Char) : (scan cs).flatMap print = cs := by
  fun_induction scan cs with
  | case1 => rfl
  | case2 cs ih => simp [print, ih]
  | case3 cs ih => simp [print, ih]
  | case4 cs name rest h ih => simp [print, ih, nameAhead?_eq_some h]
  | case5 cs h ih => simp [print_consChar, ih]
  | case6 c cs _ _ _ ih => simp [print_consChar, ih]

end Token

/-! ## Templates from tokens -/

/-- Why a text is no template. Positions count bytes. -/
inductive Fault where
  /-- The last bracket that is still open at the end. -/
  | unclosedGroup (position : Nat)
  | unexpectedClose (position : Nat)
  | duplicatePlaceholder (name : String)
  deriving DecidableEq, Repr

/-- The first fault of tokens from a position on, where the brackets in `openings` are open, the
last one first, and the names in `seen` have occurred. -/
def check : List Token → (position : Nat) → (openings : List Nat) → (seen : List String) →
    Except Fault Unit
  | [], _, [], _ => .ok ()
  | [], _, last :: _, _ => .error (.unclosedGroup last)
  | .opens :: ts, p, openings, seen => check ts (p + 1) (p :: openings) seen
  | .closes :: _, p, [], _ => .error (.unexpectedClose p)
  | .closes :: ts, p, _ :: openings, seen => check ts (p + 1) openings seen
  | .placeholder cs :: ts, p, openings, seen =>
    let name := String.ofList cs
    if seen.contains name then .error (.duplicatePlaceholder name)
    else check ts (p + (Token.placeholder cs).width) openings (name :: seen)
  | .literal cs :: ts, p, openings, seen => check ts (p + (Token.literal cs).width) openings seen

/-- A template from the right: the items read so far at the level at hand, and what follows each
group that is open around it. -/
structure Suffix where
  items : Template := .nil
  after : List Template := []

/-- A token in front of what has been read. -/
def Token.place : Token → Suffix → Suffix
  | .literal cs, s => { s with items := .literal (.ofList cs) s.items }
  | .placeholder cs, s => { s with items := .placeholder (.ofList cs) s.items }
  | .closes, s => { items := .nil, after := s.items :: s.after }
  | .opens, s => { items := .optional s.items (s.after.headD .nil), after := s.after.tail }

/-- The template of tokens without fault. -/
def assemble (ts : List Token) : Template := (ts.foldr Token.place {}).items

/-- The template that a text describes. -/
def parse (text : String) : Except Fault Template := do
  let tokens := Token.scan text.toList
  check tokens 0 [] []
  return assemble tokens

end PathRoute.Template
