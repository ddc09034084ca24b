import PathRoute.Text.Reader

/-!
# Flags, limits and errors of expressions

The settings of an expression that can be changed within it, how much of it there may be, and why it
is refused.
-/

namespace PathRoute.Regex

/-! ## Flags -/

structure Flags where
  /-- Letters match in either case. -/
  caseless : Bool := false
  /-- `^` and `$` match at the ends of lines. -/
  multiLine : Bool := false
  /-- A dot matches line ends too. -/
  dotAll : Bool := false
  /-- Repetitions are lazy, and greedy with a question mark. -/
  swapGreed : Bool := false
  /-- Classes and letter cases are those of all characters, not of ASCII alone. -/
  unicode : Bool := true
  /-- A line ends in `\r`, `\n` or both together. -/
  crlf : Bool := false
  /-- Blank characters and comments are no part of the expression. -/
  verbose : Bool := false
  deriving DecidableEq, Repr

/-- Set the flag of a letter. -/
def Flags.set (f : Flags) (letter : Char) (value : Bool) : Flags :=
  match letter with
  | 'i' => { f with caseless := value }
  | 'm' => { f with multiLine := value }
  | 's' => { f with dotAll := value }
  | 'U' => { f with swapGreed := value }
  | 'u' => { f with unicode := value }
  | 'R' => { f with crlf := value }
  | 'x' => { f with verbose := value }
  | _ => f

/-- The letters of the flags. -/
def Flags.letters : List Char := ['i', 'm', 's', 'U', 'u', 'R', 'x']

/-! ## Limits -/

/-- How deep groups, repetitions, sequences, alternatives and classes may stand in each other. -/
def maxDepth : Nat := 250

/-- How much room an expression may take, in bytes. -/
def maxSize : Nat := 10 * 1024 * 1024

/-! ## Errors -/

/-- The kind of the fault that is met first. -/
inductive Error where
  | unclosedGroup
  | unopenedGroup
  | unclosedClass
  /-- A repetition that follows nothing which could be repeated. -/
  | missingOperand
  | badCount
  | badEscape
  /-- A class member, or an end of a range in a class, that is no character. -/
  | badMember
  | badRange
  | unknownProperty
  /-- Look-around and references to groups. -/
  | unsupported
  | badFlags
  | badGroupName
  | duplicateGroupName
  /-- Without the flag for all characters, the class would hold parts of characters. -/
  | needsUnicode
  | nestedTooDeep
  | tooLarge
  deriving DecidableEq, Repr

namespace Error

/-- What is wrong with an expression. -/
def reason : Error → String
  | .unclosedGroup => "unclosed group"
  | .unopenedGroup => "unopened group"
  | .unclosedClass => "unclosed character class"
  | .missingOperand => "repetition operator missing expression"
  | .badCount => "invalid repetition count"
  | .badEscape => "invalid escape sequence"
  | .badMember => "invalid member of a character class"
  | .badRange => "invalid character class range, the start must be <= the end"
  | .unknownProperty => "Unicode property not found"
  | .unsupported => "look-around and backreferences are not supported"
  | .badFlags => "invalid flags"
  | .badGroupName => "invalid capture group name"
  | .duplicateGroupName => "duplicate capture group name"
  | .needsUnicode => "pattern can match invalid UTF-8"
  | .nestedTooDeep => s!"exceed the maximum number of nested parentheses/brackets ({maxDepth})"
  | .tooLarge => s!"Compiled regex exceeds size limit of {maxSize} bytes."

/-- The message for an expression that is refused. It does not show the expression and the place of
the fault in it. -/
def message : Error → String
  | .tooLarge => reason .tooLarge
  | e => "regex parse error: " ++ e.reason

end Error

/-- What reads the text of an expression. -/
abbrev Read := Reader Error

end PathRoute.Regex
