import PathRoute.Toml.Quoted
import PathRoute.Toml.Scalar
import PathRoute.Toml.Table

/-!
# TOML documents

A document is a sequence of statements: headers, which say what table the lines after them are
about, and keys with values. Each reader of a key or a value is given the first character, which
tells what follows.
-/

namespace PathRoute.Toml

/-! ## Keys and values -/

/-- How many keys a dotted key has at most, and how deep lists and tables may stand in each
other. -/
def maxDepth : Nat := 79

def isKeyChar (c : Char) : Bool := c.isAlphanum || c == '-' || c == '_'

/-- One part of a key. -/
def readKeyPart (first : Char) : Read String := do
  if first == '"' || first == '\'' then readLineText first
  else if isKeyChar first then return .ofList (first :: (← Reader.takeWhile isKeyChar))
  else malformed

/-- A key, with the space after it. -/
def readKey (first : Char) : Read Key := do
  let name ← readKeyPart first
  skipSpace
  let key ← Reader.repeatWhile (fun _ c => c == '.')
    (fun (k : Key) _ => do
      skipSpace
      let name ← readKeyPart (← Reader.next ())
      skipSpace
      return { path := k.full, name }) { name }
  if maxDepth < key.full.length then malformed else return key

/-- A character of a number, a truth value, or a moment. -/
def isWordChar (c : Char) : Bool := c.isAlphanum || ['+', '-', '.', ':', '_'].contains c

/-- A value that is neither text nor made of others. -/
def readWord (first : Char) : Read Data := do
  if !isWordChar first then malformed
  let word := first :: (← Reader.takeWhile isWordChar)
  if isDate word && beginsTime (← Reader.ahead) then
    Reader.skip 1
    let time ← Reader.takeWhile isWordChar
    if isTimeWithOffset time then return .moment (.ofList (word ++ ' ' :: time)) else malformed
  else if word == "true".toList then return .bool true
  else if word == "false".toList then return .bool false
  else if isMoment word then return .moment (.ofList word)
  else if let some n := integer? word then return .integer n
  else if isDecimal word then return .decimal (.ofList word)
  else malformed

/-- What has been read of things with commas between them. -/
structure Series (α : Type) where
  items : α
  /-- No comma has to stand before the next one. -/
  ready : Bool := true

/-- The comma in a series, which must follow an item. -/
def Series.comma {α : Type} (s : Series α) : Read (Series α) :=
  if s.ready then malformed else pure { s with ready := true }

/-- The items of a list, after its opening bracket. A comma may follow the last one. -/
def readList (readItem : Char → Read Data) : Read Data := do
  skipLines
  let s ← Reader.repeatWhile (fun _ c => c != ']')
    (fun s c => do
      let s ← if c == ',' then s.comma
        else if s.ready then pure { items := (← readItem c) :: s.items, ready := false }
        else malformed
      skipLines
      return s) ({ items := [] } : Series (List Data))
  let _ ← Reader.next ()
  return .list s.items.reverse

/-- A key with its value, and the space after them. -/
def readAssignment (readItem : Char → Read Data) (first : Char) : Read (Key × Data) := do
  let key ← readKey first
  unless ← Reader.skipText "=" do malformed
  skipSpace
  let d ← readItem (← Reader.next ())
  skipSpace
  return (key, d)

/-- The entries of a table in braces, after the opening one, all on one line. -/
def readTable (readItem : Char → Read Data) : Read Data := do
  skipSpace
  let s ← Reader.repeatWhile (fun _ c => c != '}')
    (fun s c => do
      if c == ',' then
        let s ← s.comma
        skipSpace
        return s
      else if s.ready then
        let (key, d) ← readAssignment readItem c
        let some items := s.items.assign key d | malformed
        return { items, ready := false }
      else malformed) ({ items := {} } : Series Table)
  let _ ← Reader.next ()
  if s.ready && !s.items.entries.isEmpty then malformed else return s.items.data

/-- A value, in which lists and tables stand in each other at most to a depth. -/
def readValue (depth : Nat) (first : Char) : Read Data :=
  match depth, first with
  | _, '"' => .text <$> readQuoted '"'
  | _, '\'' => .text <$> readQuoted '\''
  | depth + 1, '[' => readList (readValue depth)
  | depth + 1, '{' => readTable (readValue depth)
  | _, first => readWord first

/-! ## Documents -/

inductive Statement where
  | header (key : Key)
  /-- The header of one more table of a list. -/
  | listHeader (key : Key)
  | assignment (key : Key) (value : Data)

/-- A header after its opening bracket. -/
def readHeader : Read Statement := do
  let isList ← Reader.skipText "["
  skipSpace
  let key ← readKey (← Reader.next ())
  unless ← Reader.skipText (if isList then "]]" else "]") do malformed
  endLine
  return if isList then .listHeader key else .header key

/-- Go on after statements, last first, from a character. -/
def readStatement (done : List Statement) (first : Char) : Read (List Statement) := do
  if isSpace first || first == '\n' then return done
  else if first == '\r' then
    finishReturn
    return done
  else if first == '#' then
    skipComment
    endLine
    return done
  else if first == '[' then return (← readHeader) :: done
  else
    let (key, value) ← readAssignment (readValue maxDepth) first
    endLine
    return .assignment key value :: done

/-- A document as far as it has been made, with the path of the table that lines are about. -/
structure Document where
  root : Table := {}
  current : List String := []

/-- The document after one more statement. -/
def Document.add (d : Document) : Statement → Option Document
  | .header key => (d.root.openTable key).map (⟨·, key.full⟩)
  | .listHeader key => (d.root.openElement key).map (⟨·, key.full⟩)
  | .assignment key value =>
    (d.root.descend false (·.assign key value) d.current).map ({ d with root := · })

/-- The table that a text describes, if it is well formed. A mark of the byte order in front is
left out. -/
def parse? (text : String) : Option Data := do
  let cs := match text.toList with
    | '\uFEFF' :: cs => cs
    | cs => cs
  let (statements, _) ← ((Reader.repeatWhile (fun _ _ => true) readStatement []).run cs).toOption
  let document ← statements.reverse.foldlM Document.add {}
  return document.root.data

end PathRoute.Toml
