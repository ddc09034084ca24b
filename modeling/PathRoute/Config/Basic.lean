import PathRoute.Actions
import PathRoute.Data
import PathRoute.Form
import PathRoute.Formats

/-!
# Configurations

Routes as they are written in a configuration, with the base of their URLs and the settings of the
log, and how all this is read out of data.
-/

namespace PathRoute

namespace Config

/-- How the lines of a log look. -/
inductive LogStyle where
  | pretty | compact
  deriving DecidableEq, Repr

structure Logging where
  level : String := "info"
  style : LogStyle := .pretty
  deriving DecidableEq, Repr

/-- The verbs of a route: a list of verbs with their default actions, or the actions of verbs.
With an empty list every verb has its default action. -/
inductive Methods where
  | list (verbs : List String)
  | table (actions : Entries)
  deriving DecidableEq

/-- The rules for a placeholder, as far as they are given. -/
structure ParameterRules where
  requirement : Option String := none
  default : Option String := none
  deriving DecidableEq, Repr

structure RouteSpec where
  path : String
  handler : Option String := none
  methods : Methods := .list []
  parameters : Std.ExtTreeMap String ParameterRules := ∅
  /-- The formats of the route; the default ones if there are none. -/
  formats : List Format := []
  pinned : Option String := none
  disabled : Bool := false
  deriving DecidableEq

end Config

structure Config where
  /-- What built URLs begin with. -/
  baseUrl : String := ""
  logging : Config.Logging := {}
  routes : List Config.RouteSpec := []
  deriving DecidableEq

namespace Config

/-! ## Configurations from data -/

namespace Decode

open PathRoute.Decode

def style (dialect : Dialect) (d : Data) : Option LogStyle := do
  match ← choice dialect d with
  | "pretty" => return .pretty
  | "compact" => return .compact
  | _ => none

/-- A verb, by its name in capitals. -/
def verb (dialect : Dialect) (d : Data) : Option Verb := do
  Verb.ofName? (← choice dialect d)

def logging (dialect : Dialect) (d : Data) : Option Logging := do
  let get ← fields dialect ["log_level", "log_format"] d
  return {
    level := ← field get "log_level" text "info"
    style := ← field get "log_format" (style dialect) .pretty }

def methods (d : Data) : Option Methods :=
  ((list text d).map .list) <|> ((table text d).map .table)

def parameterRules (dialect : Dialect) (d : Data) : Option ParameterRules := do
  let get ← fields dialect ["requirement", "default"] d
  return {
    requirement := ← field get "requirement" (optional text) none
    default := ← field get "default" (optional text) none }

def format (dialect : Dialect) (d : Data) : Option Format := do
  let get ← fields dialect ["name", "mime"] d
  return { name := ← required get "name" text, mime := ← required get "mime" text }

def routeSpec (dialect : Dialect) (d : Data) : Option RouteSpec := do
  let get ← fields dialect
    ["path", "presenter", "methods", "parameters", "formats", "format", "disable"] d
  return {
    path := ← required get "path" text
    handler := ← field get "presenter" (optional text) none
    methods := ← field get "methods" methods (.list [])
    parameters := ← field get "parameters" (table (parameterRules dialect)) ∅
    formats := ← field get "formats" (list (format dialect)) []
    pinned := ← field get "format" (optional text) none
    disabled := ← field get "disable" flag false }

end Decode

/-- The configuration that data describes. -/
def ofData? (dialect : Dialect) (d : Data) : Option Config := do
  let get ← Decode.fields dialect ["base_url", "observability", "routes"] d
  return {
    baseUrl := ← Decode.field get "base_url" Decode.text ""
    logging := ← Decode.field get "observability" (Decode.logging dialect) {}
    routes := ← Decode.field get "routes" (Decode.list (Decode.routeSpec dialect)) [] }

end Config

end PathRoute
