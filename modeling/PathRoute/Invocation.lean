import PathRoute.Form

/-!
# Invocations

What a matched request asks for: an action of a handler, with parameters. It can be shown as a JSON
object with each member on a line of its own.
-/

namespace PathRoute

/-- Named parameters. One without a value is carried along, but no URL shows it. -/
abbrev Parameters := Std.ExtTreeMap String (Option String)

/-- The parameter under which an action is passed on. -/
def actionKey : String := "action"

structure Invocation where
  handler : Option String
  /-- The verb that the request was taken for. -/
  method : String
  action : String
  /-- The query, the placeholders and the action. -/
  parameters : Parameters
  /-- The format to answer in. -/
  format : String
  post : Entries
  files : List String
  secured : Bool
  deriving DecidableEq

/-- The value of a parameter, if it has one. -/
def Invocation.parameter? (i : Invocation) (name : String) : Option String :=
  (i.parameters[name]?).join

/-! ## Invocations as JSON -/

namespace Json

/-- A hexadecimal digit in lower case. -/
def lowerDigit (n : Nat) : Char := if n < 10 then .ofNat (0x30 + n) else .ofNat (0x57 + n)

/-- A character as it stands in a string: quotes, backslashes and control characters are escaped. -/
def escapeChar (c : Char) : List Char :=
  match c with
  | '"' => ['\\', '"']
  | '\\' => ['\\', '\\']
  | '\x08' => ['\\', 'b']
  | '\t' => ['\\', 't']
  | '\n' => ['\\', 'n']
  | '\x0C' => ['\\', 'f']
  | '\r' => ['\\', 'r']
  | c =>
    if c.toNat < 0x20 then
      ['\\', 'u', '0', '0', lowerDigit (c.toNat / 16), lowerDigit (c.toNat % 16)]
    else [c]

def string (s : String) : String := .ofList ('"' :: (s.toList.flatMap escapeChar ++ ['"']))

def optional : Option String → String
  | none => "null"
  | some s => string s

def bool (b : Bool) : String := if b then "true" else "false"

/-- Items between brackets, each on a line of its own, at a depth of indentation. -/
def block (opening closing : String) (depth : Nat) (items : List String) : String :=
  let line (depth : Nat) : String := .ofList ('\n' :: List.replicate (2 * depth) ' ')
  if items.isEmpty then opening ++ closing
  else opening ++ ",".intercalate (items.map (line (depth + 1) ++ ·)) ++ line depth ++ closing

def object (depth : Nat) (members : List (String × String)) : String :=
  block "\x7b" "\x7d" depth (members.map fun (name, value) => string name ++ ": " ++ value)

def list (depth : Nat) (items : List String) : String := block "[" "]" depth items

end Json

/-- The invocation as a JSON text. -/
def Invocation.toJson (i : Invocation) : String :=
  Json.object 0 [
    ("handler", Json.optional i.handler),
    ("method", Json.string i.method),
    ("action", Json.string i.action),
    ("parameters", Json.object 1 (i.parameters.toList.map fun (k, v) => (k, Json.optional v))),
    ("format", Json.string i.format),
    ("post", Json.object 1 (i.post.toList.map fun (k, v) => (k, Json.string v))),
    ("files", Json.list 1 (i.files.map Json.string)),
    ("secured", Json.bool i.secured)]

end PathRoute
