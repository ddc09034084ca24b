import PathRoute.Actions
import PathRoute.Formats
import PathRoute.Pattern
import PathRoute.Route.Event

/-!
# Routes

A route ties a path template to a handler, with an action for each verb that it supports.
-/

namespace PathRoute

/-- A route. Its pattern is the compiled form of its path under its rules, and a pinned format is
one of its formats. -/
structure Route where
  handler : Option String
  actions : Actions
  placeholders : Placeholders
  formats : Formats
  /-- The format to answer in whatever the client accepts. -/
  pinned : Option String
  enabled : Bool
  pattern : Pattern
  /-- The observers that are told of each match, in the order of their registration. -/
  observers : List String
  compile_path : Pattern.compile pattern.path placeholders = .ok pattern
  contains_pinned : ∀ name, pinned = some name → formats.contains name = true
  deriving DecidableEq

namespace Route

/-- The template as it is written. -/
def path (r : Route) : String := r.pattern.path

/-- The pattern is what its path compiles to. -/
theorem compiled (r : Route) : Pattern.Compiled r.pattern.path r.placeholders r.pattern :=
  Pattern.compiled_of_compile r.compile_path

/-- What is reported when the route is made. -/
def madeEvent (r : Route) : Event := .compiled r.path r.pattern.expression

/-- Set an action, for a verb or else for the verb whose default it is. Without either nothing
changes. -/
def setAction (r : Route) (action : String) (v : Option Verb) : Route :=
  { r with actions := (r.actions.setAction? action v).getD r.actions }

/-- What is reported when an action is set: that there is no verb for it. -/
def setActionEvents (r : Route) (action : String) (v : Option Verb) : List Event :=
  if (r.actions.setAction? action v).isSome then [] else [.noVerb r.path action]

def setEnabled (r : Route) (enabled : Bool) : Route := { r with enabled }

/-- Register an observer after the others. -/
def observe (r : Route) (observer : String) : Route :=
  { r with observers := r.observers ++ [observer] }

end Route

end PathRoute
