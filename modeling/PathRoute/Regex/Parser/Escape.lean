import PathRoute.Regex.Basic
import PathRoute.Regex.Parser.Basic
import PathRoute.Text.Character
import PathRoute.Text.Property

/-!
# Escapes

What a backslash introduces, inside and outside of bracketed classes, and the blank characters and
comments that the verbose flag lets stand between the parts of an expression. With a backslash
before each character that has a meaning of its own, any text is quoted.
-/

namespace PathRoute.Regex

/-- What one escape, or one plain character, stands for. -/
inductive Atom where
  /-- A character; `byte` if it was written as two hexadecimal digits. -/
  | char (c : Char) (byte : Bool)
  | set (a : CharClass)
  | look (l : Look)

/-- Skip blank characters and comments, where they are no part of the expression. -/
def skipBlanks (f : Flags) : Read Unit := do
  if f.verbose then
    let _ ← Reader.repeatWhile (fun note c => note || isBlank c || c == '#')
      (fun note c => pure (if note then c != '\n' else c == '#')) false

/-- The character of a code point. -/
def charAt (n : Nat) : Read Char :=
  if n.isValidChar then pure (.ofNat n) else .fail .badEscape

/-- A number of hexadecimal digits, after those that make up `value`. -/
def readHex (f : Flags) : (digits value : Nat) → Read Nat
  | 0, value => pure value
  | n + 1, value => do
    match hexValue? (← Reader.next .badEscape) with
    | none => .fail .badEscape
    | some d =>
      skipBlanks f
      readHex f n (value * 16 + d)

/-- Any number of hexadecimal digits up to a closing brace. -/
def readBracedHex (f : Flags) : Read Nat := do
  let value ← Reader.repeatWhile (fun _ c => c != '}')
    (fun value c => do
      match hexValue? c with
      | none => .fail .badEscape
      | some d =>
        skipBlanks f
        pure (some (value.getD 0 * 16 + d))) none
  let _ ← Reader.next .badEscape
  skipBlanks f
  match value with
  | none => .fail .badEscape
  | some n => pure n

/-- A character by its code point, after the letter of the escape. -/
def readCode (f : Flags) (digits : Nat) : Read Atom := do
  skipBlanks f
  if (← Reader.peek) == some '{' then
    Reader.skip 1
    skipBlanks f
    return .char (← charAt (← readBracedHex f)) false
  let c ← charAt (← readHex f digits 0)
  return .char c (digits == 2)

/-- Fold the letter cases of a class together, if the flags ask for it. -/
def Flags.fold (f : Flags) (a : CharClass) : CharClass :=
  if !f.caseless then a else if f.unicode then .caseless a else .asciiCaseless a

/-- A text cut at the first place where a separator stands. -/
def cutAt (sep : List Char) : List Char → Option (List Char × List Char)
  | [] => none
  | c :: cs =>
    if sep.isPrefixOf (c :: cs) then some ([], (c :: cs).drop sep.length)
    else (cutAt sep cs).map fun (front, back) => (c :: front, back)

/-- The class that the text in a property's braces names: a single name, or a property and a value
with a sign between them. -/
def propertyClass? (name : List Char) : Option CharClass :=
  match cutAt ['!', '='] name <|> cutAt [':'] name <|> cutAt ['='] name with
  | some (property, value) => Property.valued? property value
  | none => Property.named? name

/-- A property's class, after the letter of the escape. -/
def readProperty (f : Flags) (negated : Bool) : Read Atom := do
  skipBlanks f
  let c ← Reader.next .badEscape
  let found ←
    if c == '{' then do
      skipBlanks f
      let name ← Reader.repeatWhile (fun _ c => c != '}')
        (fun name c => do skipBlanks f; pure (c :: name)) []
      let _ ← Reader.next .badEscape
      pure (propertyClass? name.reverse)
    else if c == '\\' then .fail .badEscape
    else do
      skipBlanks f
      pure (Property.named? [c])
  if !f.unicode then .fail .needsUnicode
  match found with
  | none => .fail .unknownProperty
  | some a => return .set (if negated then .compl (f.fold a) else f.fold a)

/-- Digits, blanks or words, or all but those. -/
def perlClass (f : Flags) (all : CharClass) (ascii : CodeRanges) (negated : Bool) : Read Atom :=
  if f.unicode then pure (.set (if negated then .compl all else all))
  else if negated then .fail .needsUnicode
  else pure (.set (.ranges ascii))

/-- The word edge named in braces after the escape for word boundaries. Braces that start with no
letter are left to be read as a repetition. -/
def readWordEdge (f : Flags) : Read WordEdge := do
  match ← Reader.ahead with
  | '{' :: rest =>
    let isEdgeChar (c : Char) : Bool := c.isAlpha || c == '-'
    match (skipBlanks f).run rest with
    | .ok (_, c :: _) =>
      if !isEdgeChar c then return .boundary
      Reader.skip 1
      skipBlanks f
      let name ← Reader.repeatWhile (fun _ c => isEdgeChar c)
        (fun name c => do skipBlanks f; pure (c :: name)) []
      if (← Reader.next .badEscape) != '}' then .fail .badEscape
      match String.ofList name.reverse with
      | "start" => pure .start
      | "end" => pure .stop
      | "start-half" => pure .startHalf
      | "end-half" => pure .stopHalf
      | _ => .fail .badEscape
    | _ => .fail .badEscape
  | _ => pure .boundary

/-- The characters that have a meaning of their own in expressions. -/
def isMeta (c : Char) : Bool :=
  ['\\', '.', '+', '*', '?', '(', ')', '|', '[', ']', '\x7b', '\x7d', '^', '$', '#', '&', '-',
   '~'].contains c

/-- What follows a backslash. -/
def readEscape (f : Flags) : Read Atom := do
  let c ← Reader.next .badEscape
  let word (edge : WordEdge) : Atom := .look (.word edge !f.unicode)
  match c with
  | 'x' => readCode f 2
  | 'u' => readCode f 4
  | 'U' => readCode f 8
  | 'p' => readProperty f false
  | 'P' => readProperty f true
  | 'd' => perlClass f .digit CharClass.Ascii.digit false
  | 'D' => perlClass f .digit CharClass.Ascii.digit true
  | 's' => perlClass f .blank CharClass.Ascii.space false
  | 'S' => perlClass f .blank CharClass.Ascii.space true
  | 'w' => perlClass f .word CharClass.Ascii.word false
  | 'W' => perlClass f .word CharClass.Ascii.word true
  | 'a' => pure (.char '\x07' false)
  | 'f' => pure (.char '\x0c' false)
  | 't' => pure (.char '\t' false)
  | 'n' => pure (.char '\n' false)
  | 'r' => pure (.char '\r' false)
  | 'v' => pure (.char '\x0b' false)
  | 'A' => pure (.look .textStart)
  | 'z' => pure (.look .textEnd)
  | 'b' => return word (← readWordEdge f)
  | 'B' => pure (word .inside)
  | '<' => pure (word .start)
  | '>' => pure (word .stop)
  | c =>
    if isMeta c || (c.toNat < 0x80 && !c.isAlphanum) then pure (.char c false)
    else if c.isDigit then .fail .unsupported
    else .fail .badEscape

/-! ## Quoted text -/

/-- A backslash before each character that has a meaning of its own. -/
def quote (cs : List Char) : List Char :=
  cs.flatMap fun c => if isMeta c then ['\\', c] else [c]

@[simp] theorem quote_nil : quote [] = [] := rfl

theorem quote_cons (c : Char) (cs : List Char) :
    quote (c :: cs) = (if isMeta c then ['\\', c] else [c]) ++ quote cs := by
  simp [quote]

@[simp] theorem quote_append (a b : List Char) : quote (a ++ b) = quote a ++ quote b := by
  simp [quote]

end PathRoute.Regex
