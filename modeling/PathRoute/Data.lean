import Std.Data.ExtTreeMap

/-!
# Data

Values as documents hold them, whatever the documents are written in, and the parts that are read
out of them. A record is a table, whose entries have defaults if they may be left out. Entries that
are not known are passed over. A record may also be written as the list of its first fields.
-/

namespace PathRoute

inductive Data where
  | null
  | bool (value : Bool)
  | integer (value : Int)
  /-- A number with a fraction or an exponent, as it is written. -/
  | decimal (text : String)
  | text (value : String)
  /-- A date, a time of day, or both, as it is written. -/
  | moment (text : String)
  | list (items : List Data)
  | table (entries : List (String × Data))
  deriving Repr, Inhabited

/-- The kinds of documents that data comes from. They differ in what stands for nothing, and in
whether a record's list may have more items than the record has fields. -/
inductive Dialect where
  | toml | json
  deriving DecidableEq, Repr

/-! ## Reading data -/

namespace Decode

def text : Data → Option String
  | .text s => some s
  | _ => none

def flag : Data → Option Bool
  | .bool b => some b
  | _ => none

def optional {α : Type} (decode : Data → Option α) : Data → Option (Option α)
  | .null => some none
  | d => (decode d).map some

def list {α : Type} (decode : Data → Option α) : Data → Option (List α)
  | .list items => items.mapM decode
  | _ => none

/-- The key of the entry that a moment has where a table is wanted. -/
def momentKey : String := "$__toml_private_datetime"

/-- The entries of a table. -/
def table {α : Type} (decode : Data → Option α) (d : Data) :
    Option (Std.ExtTreeMap String α) := do
  let entries ← match d with
    | .table entries => some entries
    | .moment s => some [(momentKey, .text s)]
    | _ => none
  return .ofList (← entries.mapM fun (name, d) => (decode d).map (name, ·))

/-- The fields of a record, where `names` are all that it has. -/
def fields (dialect : Dialect) (names : List String) : Data → Option (String → Option Data)
  | .table entries => some fun name => entries.lookup name
  | .moment _ => some fun _ => none
  | .list items =>
    if dialect = .json ∧ names.length < items.length then none
    else some fun name => (names.zip items).lookup name
  | _ => none

/-- A field that may be left out. -/
def field {α : Type} (get : String → Option Data) (name : String) (decode : Data → Option α)
    (default : α) : Option α :=
  match get name with
  | none => some default
  | some d => decode d

/-- A field that must be there. -/
def required {α : Type} (get : String → Option Data) (name : String)
    (decode : Data → Option α) : Option α :=
  (get name).bind decode

def isNothing : Dialect → Data → Bool
  | .json, .null => true
  | .toml, .list [] => true
  | .toml, .table [] => true
  | _, _ => false

/-- The name of one of several choices: a text, or the key of a table with nothing under it. -/
def choice (dialect : Dialect) : Data → Option String
  | .text s => some s
  | .table [(name, d)] => if isNothing dialect d then some name else none
  | _ => none

end Decode

end PathRoute
