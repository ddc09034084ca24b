import PathRoute.Request
import PathRoute.Text.Utf8

/-!
# Requests over HTTP

The target of a request is a path with a query, an address with a scheme, or an authority alone;
lengths count bytes. A request is what arrives over HTTP, with the characters that methods and
headers are made of, and what routes see of it.
-/

namespace PathRoute.Http

/-! ## Targets -/

/-- A target in its parts. -/
structure Uri where
  scheme : Option String
  path : String
  query : Option String
  deriving DecidableEq, Repr

namespace Uri

/-- The longest target. -/
def maxLength : Nat := 65534

/-- The longest scheme. -/
def maxScheme : Nat := 64

/-- The characters below `last` that stand in `ranges`, and all from there on. -/
def within (ranges : List (Char × Char)) (c : Char) : Bool :=
  0x7F ≤ c.toNat || ranges.any fun (lo, hi) => lo ≤ c && c ≤ hi

/-- Whether a character may stand in a path. -/
def isPathChar : Char → Bool :=
  within [('!', '"'), ('$', ';'), ('=', '='), ('@', '_'), ('a', '~')]

/-- Whether a character may stand in a query. -/
def isQueryChar : Char → Bool :=
  within [('!', '!'), ('$', ';'), ('=', '='), ('?', '~')]

def isSchemeChar (c : Char) : Bool :=
  c.isAlphanum || ['+', '-', '.', '~'].contains c

/-- Whether a character ends the authority. -/
def endsAuthority (c : Char) : Bool := ['/', '?', '#'].contains c

def isAuthorityChar (c : Char) : Bool :=
  c.isAlphanum || ['!', '$', '&', '\'', '(', ')', '*', '+', ',', '-', '.', ':', ';', '=', '@', '[',
    ']', '_', '~', '%'].contains c

/-- The state of reading an authority. -/
structure Authority where
  /-- The colons of the host. All but one of them must stand in brackets. -/
  colons : Nat := 0
  opened : Bool := false
  closed : Bool := false
  percent : Bool := false
  /-- The last character was the sign that ends the user's part. -/
  afterUser : Bool := false

/-- Go on by one character, unless it cannot stand there. -/
def Authority.step (a : Authority) (c : Char) : Option Authority :=
  if !isAuthorityChar c then none
  else match c with
    | ':' =>
      if 8 ≤ a.colons then none
      else some { a with colons := a.colons + 1, afterUser := false }
    | '[' =>
      if a.percent || a.opened then none
      else some { a with opened := true, afterUser := false }
    | ']' =>
      if !a.opened || a.closed then none
      else some { a with closed := true, colons := 0, percent := false, afterUser := false }
    | '@' => some { a with colons := 0, percent := false, afterUser := true }
    | '%' => some { a with percent := true, afterUser := false }
    | _ => some { a with afterUser := false }

/-- Whether a text is an authority, which may be empty. -/
def isAuthority (cs : List Char) : Bool :=
  match cs.foldlM Authority.step {} with
  | none => false
  | some a => a.opened == a.closed && a.colons ≤ 1 && !a.afterUser && !a.percent

/-- The path and the query of the text after the authority. What follows a number sign is left
out, and what follows it need not be well formed. -/
def pathAndQuery (cs : List Char) : Option (String × Option String) :=
  let isStop (c : Char) : Bool := c == '?' || c == '#'
  let path := cs.takeWhile (!isStop ·)
  let pathText := if path.isEmpty then "/" else .ofList path
  if !path.all isPathChar then none
  else match cs.dropWhile (!isStop ·) with
    | '?' :: rest =>
      let query := rest.takeWhile (· != '#')
      if query.all isQueryChar then some (pathText, some (.ofList query)) else none
    | _ => some (pathText, none)

/-- The scheme of a target, as far as it has one: its text in front of a colon and two slashes. -/
def scheme? (cs : List Char) : Option (List Char × List Char) :=
  match cs.dropWhile isSchemeChar with
  | ':' :: '/' :: '/' :: rest => some (cs.takeWhile isSchemeChar, rest)
  | _ => none

/-- The target that a text describes. -/
def parse (text : String) : Option Uri :=
  let cs := text.toList
  if maxLength < text.utf8ByteSize then none
  else match cs with
    | [] => none
    | ['*'] => some ⟨none, "*", none⟩
    | '/' :: _ => (pathAndQuery cs).map fun (path, query) => ⟨none, path, query⟩
    | _ =>
      match if cs.length ≤ 3 then none else scheme? cs with
      | none => if isAuthority cs then some ⟨none, "", none⟩ else none
      | some (scheme, rest) =>
        let name := (String.ofList scheme)
        let known := ["http", "https"].contains name.toLower
        let authority := rest.takeWhile (!endsAuthority ·)
        if !known && maxScheme < scheme.length then none
        else if authority.isEmpty || !isAuthority authority then none
        else (pathAndQuery (rest.dropWhile (!endsAuthority ·))).map fun (path, query) =>
          ⟨some (if known then name.toLower else name), path, query⟩

end Uri

/-! ## Tokens and header values -/

/-- Whether a character may stand in a method or in the name of a header. -/
def isTokenChar (c : Char) : Bool :=
  c.isAlphanum || ['!', '#', '$', '%', '&', '\'', '*', '+', '-', '.', '^', '_', '\x60', '|',
    '~'].contains c

/-- Whether a text is a token: characters of that kind, at least one. -/
def isToken (cs : List Char) : Bool := !cs.isEmpty && cs.all isTokenChar

/-- Whether a character may stand in the value of a header: no control character but the tab. -/
def isValueChar (c : Char) : Bool := c == '\t' || (0x20 ≤ c.toNat && c.toNat != 0x7F)

/-- Whether a character of a header's value can be shown. -/
def isVisible (c : Char) : Bool := c == '\t' || (0x20 ≤ c.toNat && c.toNat < 0x7F)

/-! ## Messages -/

structure Message where
  method : String := "GET"
  target : String
  headers : List (String × String) := []

namespace Message

/-- Whether a header has a proper name and value. -/
def headerFits (name value : String) : Bool :=
  isToken name.toList && value.toList.all isValueChar

/-- The first value of each header. One that cannot be shown hides the ones after it. -/
def readableHeaders (headers : List (String × String)) : Entries :=
  let first (name : String) : Option String := headers.lookup name
  .ofList <| headers.filterMap fun (name, _) =>
    (first name).bind fun value => if value.toList.all isVisible then some (name, value) else none

/-- The request that a message makes, if its method, its target and its headers are proper. -/
def request? (m : Message) : Option Request := do
  let uri ← Uri.parse m.target
  guard (isToken m.method.toList)
  guard (m.headers.all fun (name, value) => headerFits name value)
  return {
    method := m.method
    path := uri.path
    headers := readableHeaders (m.headers.map fun (name, value) => (name.toLower, value))
    query := (uri.query.map Form.parse).getD ∅
    secured := uri.scheme == some "https" }

end Message

end PathRoute.Http
