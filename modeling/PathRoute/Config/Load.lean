import PathRoute.Config.Basic
import PathRoute.Route.Draft
import PathRoute.Text.Utf8
import PathRoute.Toml.Document

/-!
# Loading a configuration

A configuration is read from a TOML text or from the bytes of a file, and accepted if it has no
problems. All problems are reported, not only the first: those of the base and of the log level, and
then those of each route in order.
-/

namespace PathRoute.Config

/-! ## Routes of a configuration -/

/-- The verb of a text. -/
def verb (text : String) : Except RouteError Verb :=
  match Verb.ofText? text with
  | some v => .ok v
  | none => .error (.unknownVerb text)

def Methods.settings : Methods → Except RouteError (List Setting)
  | .list verbs => verbs.mapM fun text => (verb text).map .verb
  | .table actions => actions.toList.mapM fun (text, action) => (verb text).map (.action · action)

/-- The settings for the placeholder with a name. -/
def ParameterRules.settings (name : String) (p : ParameterRules) : List Setting :=
  (p.requirement.map (.requirement name)).toList ++ (p.default.map (.default name)).toList

namespace RouteSpec

/-- The settings of a route. The verbs are looked at before anything else. -/
def settings (s : RouteSpec) : Except RouteError (List Setting) := do
  let methods ← s.methods.settings
  return .enabled (!s.disabled) :: ((s.handler.map .handler).toList ++ methods ++
    s.parameters.toList.flatMap (fun (name, p) => p.settings name) ++
    (if s.formats.isEmpty then [] else [.formats ⟨s.formats⟩]) ++
    (s.pinned.map .pinned).toList)

/-- The route that is specified. -/
def route (s : RouteSpec) : Except RouteError Route := do
  Route.ofSettings s.path (← s.settings)

end RouteSpec

/-- Why the routes cannot be made: the place of the first one at fault, and its fault. -/
structure BuildError where
  index : Nat
  cause : RouteError
  deriving DecidableEq, Repr

/-- The routes of specifications, the first of which has the place `start`. -/
def routesFrom (start : Nat) : List RouteSpec → Except BuildError (List Route)
  | [] => .ok []
  | s :: rest =>
    match s.route with
    | .error cause => .error ⟨start, cause⟩
    | .ok r => (routesFrom (start + 1) rest).map (r :: ·)

/-- The routes of a configuration, in order. -/
def build (c : Config) : Except BuildError (List Route) := routesFrom 0 c.routes

/-! ## Problems -/

inductive Problem where
  | baseUrl (url : String)
  | logLevel (level : String)
  /-- A route has the handler and the path of an earlier one. -/
  | duplicate (index first : Nat) (path : String)
  /-- A route cannot be made. -/
  | invalid (index : Nat) (path : String) (cause : RouteError)
  /-- There are rules for a name that the template of a route does not have. -/
  | unused (index : Nat) (path name : String)
  deriving DecidableEq, Repr

def Problem.message : Problem → String
  | .baseUrl url => s!"base_url '{url}' must be empty or end with '/'"
  | .logLevel level => s!"unknown log level '{level}'"
  | .duplicate index first path => s!"route #{index} duplicates route #{first} ({path})"
  | .invalid index path cause => s!"route #{index} ({path}): {cause.message}"
  | .unused index path name =>
    s!"route #{index} ({path}): parameter '{name}' does not appear in the template"

/-- The names of the log levels that may be configured. -/
def logLevels : List String := ["trace", "debug", "info", "warn", "error"]

def baseProblems (c : Config) : List Problem :=
  if c.baseUrl = "" ∨ c.baseUrl.toList.getLast? = some '/' then [] else [.baseUrl c.baseUrl]

def levelProblems (c : Config) : List Problem :=
  if c.logging.level.toLower ∈ logLevels then [] else [.logLevel c.logging.level]

/-- Whether two specifications are for one handler and one path. -/
def RouteSpec.Same (s t : RouteSpec) : Prop := s.handler = t.handler ∧ s.path = t.path

instance (s t : RouteSpec) : Decidable (s.Same t) := inferInstanceAs (Decidable (_ ∧ _))

/-- The problems of the route that stands after others. -/
def routeProblems (earlier : List RouteSpec) (s : RouteSpec) : List Problem :=
  let index := earlier.length
  let duplicates := match earlier.findIdx? (fun t => decide (t.Same s)) with
    | some first => [.duplicate index first s.path]
    | none => []
  duplicates ++ match s.route with
    | .error cause => [.invalid index s.path cause]
    | .ok r =>
      (s.parameters.keys.filter (· ∉ r.pattern.names)).map (.unused index s.path)

/-- The problems of routes that stand after others. -/
def problemsAfter (earlier : List RouteSpec) : List RouteSpec → List Problem
  | [] => []
  | s :: rest => routeProblems earlier s ++ problemsAfter (earlier ++ [s]) rest

/-- All problems of a configuration. -/
def problems (c : Config) : List Problem :=
  baseProblems c ++ levelProblems c ++ problemsAfter [] c.routes

/-! ## Texts and files -/

/-- Why there is no configuration, or no routes. -/
inductive Error where
  /-- The file is missing, or is no text. -/
  | unreadable
  /-- The text does not describe a configuration. -/
  | malformed
  | invalid (problems : List Problem)
  | route (cause : BuildError)
  deriving DecidableEq, Repr

def Error.message : Error → String
  | .unreadable => "IO error"
  | .malformed => "Parse error"
  | .invalid problems => "Validation failed: " ++ ", ".intercalate (problems.map Problem.message)
  | .route e => s!"route #{e.index}: {e.cause.message}"

/-- The configuration that a TOML text describes, with all its problems. -/
def ofText? (text : String) : Option Config := (Toml.parse? text).bind (ofData? .toml)

/-- A configuration, if it has no problems. -/
def accept (c : Config) : Except Error Config :=
  match problems c with
  | [] => .ok c
  | ps => .error (.invalid ps)

/-- The configuration that a TOML text describes, if it has no problems. -/
def parse (text : String) : Except Error Config :=
  match ofText? text with
  | some c => accept c
  | none => .error .malformed

/-- The configuration in the bytes of a file. -/
def load (bytes : List UInt8) : Except Error Config :=
  match Utf8.decode? bytes with
  | some cs => parse (.ofList cs)
  | none => .error .unreadable

end PathRoute.Config
