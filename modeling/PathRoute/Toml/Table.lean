import PathRoute.Data

/-!
# Tables under construction

The tables of a TOML text grow line by line. How a table came to be decides how it may be extended:
a header makes it once, and dotted keys extend only what dotted keys or the paths of headers made.
-/

namespace PathRoute.Toml

/-- How a table came to be. -/
inductive Origin where
  /-- By a header of its own. -/
  | header
  /-- On the path of a header. -/
  | path
  /-- On the path of a dotted key. -/
  | dotted
  deriving DecidableEq, Repr

/-- What stands under a key. -/
inductive Node where
  | value (d : Data)
  | table (origin : Origin) (entries : List (String × Node))
  /-- The tables that headers of a list have made, the last one apart. -/
  | tables (last : List (String × Node)) (earlier : List (List (String × Node)))

mutual

/-- The finished value. -/
def Node.data : Node → Data
  | .value d => d
  | .table _ entries => .table (entriesData entries)
  | .tables last earlier => .list (tablesData earlier ++ [.table (entriesData last)])

def entriesData : List (String × Node) → List (String × Data)
  | [] => []
  | entry :: entries => (entry.1, entry.2.data) :: entriesData entries

def tablesData : List (List (String × Node)) → List Data
  | [] => []
  | entries :: rest => .table (entriesData entries) :: tablesData rest

end

structure Table where
  origin : Origin := .header
  entries : List (String × Node) := []

/-- A key with the keys of the tables on the way to it. -/
structure Key where
  path : List String := []
  name : String

def Key.full (k : Key) : List String := k.path ++ [k.name]

namespace Table

def find? (t : Table) (name : String) : Option Node := t.entries.lookup name

/-- Put a node under a name, in the place of the one that is there. -/
def put (t : Table) (name : String) (n : Node) : Table :=
  { t with entries := replace t.entries }
where
  replace : List (String × Node) → List (String × Node)
    | [] => [(name, n)]
    | entry :: entries =>
      if entry.1 = name then (name, n) :: entries else entry :: replace entries

def node (t : Table) : Node := .table t.origin t.entries

def data (t : Table) : Data := t.node.data

/-- Change the table at the end of a path, where the last table of a list stands for the list.
Tables that are missing on the way are made. Dotted keys do not lead through a table that has a
header. -/
def descend (dotted : Bool) (f : Table → Option Table) : List String → Table → Option Table
  | [], t => f t
  | name :: path, t =>
    match t.find? name with
    | none =>
      (descend dotted f path { origin := if dotted then .dotted else .path }).map
        fun u => t.put name u.node
    | some (.value _) => none
    | some (.table origin entries) =>
      if dotted && origin == .header then none
      else (descend dotted f path { origin, entries }).map fun u => t.put name u.node
    | some (.tables last earlier) =>
      (descend dotted f path { entries := last }).map
        fun u => t.put name (.tables u.entries earlier)

/-- Give a key a value that has none yet. A dotted key ends in a table that dotted keys made. -/
def assign (t : Table) (k : Key) (d : Data) : Option Table :=
  t.descend true (fun u =>
    if (k.path.isEmpty || u.origin == .dotted) && (u.find? k.name).isNone then
      some (u.put k.name (.value d))
    else none) k.path

/-- Begin the table of a header, which may be there on the path of another header. -/
def openTable (t : Table) (k : Key) : Option Table :=
  t.descend false (fun u =>
    match u.find? k.name with
    | none => some (u.put k.name (.table .header []))
    | some (.table .path entries) => some (u.put k.name (.table .header entries))
    | some _ => none) k.path

/-- Begin the next table of a list. -/
def openElement (t : Table) (k : Key) : Option Table :=
  t.descend false (fun u =>
    match u.find? k.name with
    | none => some (u.put k.name (.tables [] []))
    | some (.tables last earlier) => some (u.put k.name (.tables [] (earlier ++ [last])))
    | some _ => none) k.path

end Table

end PathRoute.Toml
