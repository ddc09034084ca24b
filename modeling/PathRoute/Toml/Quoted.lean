import PathRoute.Text.Character
import PathRoute.Text.Reader

/-!
# Lines and quoted text in TOML

Text on one line stands between two quotes, and text of many lines between three and three. Double
quotes allow escapes, single quotes do not.
-/

namespace PathRoute.Toml

/-! ## Space, comments and the ends of lines -/

/-- Readers of TOML. All texts that are not well formed fail alike. -/
abbrev Read := Reader Unit

def malformed {α : Type} : Read α := Reader.fail ()

def isSpace (c : Char) : Bool := c == ' ' || c == '\t'

/-- Whether a character may stand in comments and between quotes: no control character but the
tab. -/
def isPrintable (c : Char) : Bool := c == '\t' || (0x20 ≤ c.toNat && c.toNat != 0x7F)

def skipSpace : Read Unit := Reader.skipWhile isSpace

/-- Skip the text of a comment. -/
def skipComment : Read Unit := Reader.skipWhile isPrintable

/-- Take the line feed that must follow a carriage return. -/
def finishReturn : Read Unit := do
  unless ← Reader.skipText "\n" do malformed

/-- Take the end of a line, if it stands in front, and tell whether it does. -/
def skipLineEnd : Read Bool := do
  if ← Reader.skipText "\r" then
    finishReturn
    return true
  Reader.skipText "\n"

/-- Take what may follow on a line that is complete, with the end of the line or of the text. -/
def endLine : Read Unit := do
  skipSpace
  if ← Reader.skipText "#" then skipComment
  let ended ← skipLineEnd
  let ahead ← Reader.peek
  unless ended || ahead.isNone do malformed

/-- Skip space, comments, and ends of lines. -/
def skipLines : Read Unit :=
  Reader.repeatWhile (fun _ c => isSpace c || ['\n', '\r', '#'].contains c)
    (fun _ c => match c with
      | '#' => skipComment
      | '\r' => finishReturn
      | _ => pure ()) ()

/-! ## Quoted text -/

/-- The character whose code point is written in a number of hexadecimal digits, after those that
make up `code`. -/
def readCode : (digits code : Nat) → Read Char
  | 0, code => if code.isValidChar then pure (.ofNat code) else malformed
  | n + 1, code => do
    match hexValue? (← Reader.next ()) with
    | some d => readCode n (code * 16 + d)
    | none => malformed

/-- The character that an escape stands for, after its backslash. -/
def readEscape : Read Char := do
  match ← Reader.next () with
  | 'b' => return '\x08'
  | 'f' => return '\x0C'
  | 'n' => return '\n'
  | 'r' => return '\r'
  | 't' => return '\t'
  | '\\' => return '\\'
  | '"' => return '"'
  | 'u' => readCode 4 0
  | 'U' => readCode 8 0
  | _ => malformed

/-- Text on one line, after the opening quote. -/
def readLineText (quote : Char) : Read String := do
  let chars ← Reader.repeatWhile (fun _ c => c != quote)
    (fun cs c =>
      if c == '\\' && quote == '"' then return (← readEscape) :: cs
      else if isPrintable c then return c :: cs
      else malformed) []
  let _ ← Reader.next ()
  return .ofList chars.reverse

/-- What has been read of a text of many lines, last first. -/
structure LongText where
  chars : List Char := []
  closed : Bool := false

/-- Skip a line end, and space and line ends after it, if only space stands before the line end. -/
def skipFold : Read Bool := do
  match (← Reader.ahead).dropWhile isSpace with
  | '\n' :: _ | '\r' :: '\n' :: _ =>
    Reader.repeatWhile (fun _ c => isSpace c || c == '\n' || c == '\r')
      (fun _ c => if c == '\r' then finishReturn else pure ()) ()
    return true
  | _ => return false

/-- Take a quote in a text of many lines. Three of them end it, and up to two that stand before
those belong to the text. -/
def readQuotes (quote : Char) (t : LongText) : Read LongText := do
  let more := ((← Reader.ahead).takeWhile (· == quote)).length
  if more < 2 then return { t with chars := quote :: t.chars }
  if 4 < more then malformed
  Reader.skip more
  return { chars := List.replicate (more - 2) quote ++ t.chars, closed := true }

/-- Text of many lines, after the opening quotes. A line end that follows these is left out. -/
def readLongText (quote : Char) : Read String := do
  let _ ← skipLineEnd
  let t ← Reader.repeatWhile (fun t _ => !t.closed)
    (fun t c => do
      if c == quote then readQuotes quote t
      else if c == '\\' && quote == '"' then
        if ← skipFold then return t
        return { t with chars := (← readEscape) :: t.chars }
      else if c == '\r' then
        finishReturn
        return { t with chars := '\n' :: t.chars }
      else if c == '\n' || isPrintable c then return { t with chars := c :: t.chars }
      else malformed) ({} : LongText)
  if t.closed then return .ofList t.chars.reverse else malformed

/-- A quoted text, after its first quote. -/
def readQuoted (quote : Char) : Read String := do
  if [quote, quote].isPrefixOf (← Reader.ahead) then
    Reader.skip 2
    readLongText quote
  else readLineText quote

end PathRoute.Toml
