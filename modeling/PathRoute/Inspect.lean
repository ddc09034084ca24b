import PathRoute.Config.Load

/-!
# Routes and errors for inspection

A route, or an error of a configuration, as one line of text that names its parts. Texts stand in
quotes for people who look for what is in them: characters that cannot be seen, or that would join
the one before, are written by their code points.
-/

namespace PathRoute

namespace Quoted

/-- Whether a character shows as one of its own. -/
def isShown (c : Char) : Bool :=
  c == ' ' || !((Category.rangesOf (Category.separators ++ Category.others)).contains c ||
    (Category.rangesOf [.nonspacingMark, .enclosingMark] ++
      Property.Ranges.otherGraphemeExtend).contains c)

/-- The code point in hexadecimal digits. -/
def codePoint (c : Char) : List Char := Nat.toDigits 16 c.toNat

def quoteChar (c : Char) : List Char :=
  match c with
  | '\x00' => ['\\', '0']
  | '\t' => ['\\', 't']
  | '\r' => ['\\', 'r']
  | '\n' => ['\\', 'n']
  | '\\' => ['\\', '\\']
  | '"' => ['\\', '"']
  | c => if isShown c then [c] else ['\\', 'u', '\x7b'] ++ codePoint c ++ ['\x7d']

/-- A text in quotes. -/
def quote (s : String) : String := .ofList ('"' :: (s.toList.flatMap quoteChar ++ ['"']))

/-- A text that may be missing. -/
def quoteOption : Option String → String
  | none => "None"
  | some s => "Some(" ++ quote s ++ ")"

/-- A list in brackets. -/
def bracket (parts : List String) : String := "[" ++ ", ".intercalate parts ++ "]"

/-- A name with fields in braces. -/
def braces (name : String) (fields : List (String × String)) : String :=
  name ++ " \x7b " ++ ", ".intercalate (fields.map fun (k, v) => k ++ ": " ++ v) ++ " \x7d"

end Quoted

open Quoted

/-! ## Routes -/

def Actions.inspect (t : Actions) : String :=
  braces "ActionTable" [("actions", bracket (t.slots.toList.map quoteOption))]

def Format.inspect (f : Format) : String :=
  braces "Format" [("name", quote f.name), ("mime", quote f.mime)]

def Formats.inspect (t : Formats) : String :=
  braces "FormatTable" [("formats", bracket (t.entries.map Format.inspect))]

def Route.inspect (r : Route) : String :=
  braces "ApiRoute" [
    ("path", quote r.path),
    ("handler", quoteOption r.handler),
    ("actions", r.actions.inspect),
    ("formats", r.formats.inspect),
    ("pinned_format", quoteOption r.pinned),
    ("enabled", toString r.enabled),
    ("expression", quote r.pattern.expression),
    ("observers", toString r.observers.length)]

/-! ## Errors of configurations -/

namespace Config

def Problem.inspect : Problem → String
  | .baseUrl url => "BaseUrl(" ++ quote url ++ ")"
  | .logLevel level => "LogLevel(" ++ quote level ++ ")"
  | .duplicate index first path =>
    braces "DuplicateRoute" [
      ("index", toString index), ("first", toString first), ("path", quote path)]
  | .invalid index path cause =>
    braces "InvalidRoute" [
      ("index", toString index), ("path", quote path), ("reason", quote cause.message)]
  | .unused index path name =>
    braces "UnusedParameter" [
      ("index", toString index), ("path", quote path), ("name", quote name)]

def Error.inspect : Error → String
  | .unreadable => "Io"
  | .malformed => "Parse"
  | .invalid problems => "Validation(" ++ bracket (problems.map Problem.inspect) ++ ")"
  | .route e =>
    braces "Route" [("index", toString e.index), ("source", quote e.cause.message)]

end Config

end PathRoute
