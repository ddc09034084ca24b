/-!
# Requirements

A requirement is a regular expression for the value of a placeholder. It must not open capturing
groups of its own, so the written form is changed: capturing groups, with or without a name,
become groups that capture nothing. Escapes and bracketed classes stay as they are.
-/

namespace PathRoute.Requirement

/-- The front of a bracketed class after its bracket, and the rest: a negation, and a closing
bracket that stands for itself. -/
def classFront (cs : List Char) : List Char × List Char :=
  match cs with
  | '^' :: ']' :: rest => (['^', ']'], rest)
  | '^' :: rest => (['^'], rest)
  | ']' :: rest => ([']'], rest)
  | _ => ([], cs)

theorem length_classFront (cs : List Char) : (classFront cs).2.length ≤ cs.length := by
  unfold classFront
  split
  all_goals
    simp only [List.length_cons]
    omega

/-- Whether the text after an opening parenthesis gives its group a name. -/
def opensNamed : List Char → Bool
  | '?' :: 'P' :: '<' :: _ => true
  | '?' :: '<' :: '=' :: _ => false
  | '?' :: '<' :: '!' :: _ => false
  | '?' :: '<' :: _ => true
  | _ => false

/-- The text after the angle bracket that ends a group's name. -/
def afterName (cs : List Char) : List Char := (cs.dropWhile (· != '>')).drop 1

theorem length_afterName (cs : List Char) : (afterName cs).length ≤ cs.length := by
  have := (List.dropWhile_suffix (l := cs) (· != '>')).length_le
  simp [afterName]
  omega

/-- The beginning of a group that captures nothing. -/
def opening : List Char := ['(', '?', ':']

/-- A requirement from some place on; `inClass` tells whether that is within brackets. -/
def dropCaptures (inClass : Bool) : List Char → List Char
  | [] => []
  | '\\' :: c :: cs => '\\' :: c :: dropCaptures inClass cs
  | '[' :: cs =>
    if inClass then '[' :: dropCaptures true cs
    else '[' :: ((classFront cs).1 ++ dropCaptures true (classFront cs).2)
  | ']' :: cs => ']' :: dropCaptures false cs
  | '(' :: cs =>
    if inClass then '(' :: dropCaptures true cs
    else if cs.head? ≠ some '?' then opening ++ dropCaptures false cs
    else if opensNamed cs then opening ++ dropCaptures false (afterName cs)
    else '(' :: dropCaptures false cs
  | c :: cs => c :: dropCaptures inClass cs
termination_by cs => cs.length
decreasing_by
  all_goals
    have := length_classFront cs
    have := length_afterName cs
    simp only [List.length_cons]
    omega

/-- A requirement with no capturing groups. -/
def withoutCaptures (text : String) : String := .ofList (dropCaptures false text.toList)

end PathRoute.Requirement
