import PathRoute.Invocation
import PathRoute.Route.Basic
import PathRoute.Route.Event

/-!
# Building URLs

The template of a route is filled with parameters. An optional group with a placeholder that has no
value is left out, and so is the route if such a placeholder stands outside of all groups. The
parameters that the template does not name become the query.
-/

namespace PathRoute

/-- A template with its placeholders filled: nothing, if one at its own level has no value. -/
def Template.fill (ps : Parameters) : Template → Option (List Char)
  | .nil => some []
  | .literal text rest => (rest.fill ps).map (text.toList ++ ·)
  | .placeholder name rest => do
    let value ← (ps[name]?).join
    return value.toList ++ (← rest.fill ps)
  | .optional inner rest => (rest.fill ps).map ((inner.fill ps).getD [] ++ ·)

namespace Route

/-- The parameters that become the query: those with a value, but neither the action nor what the
template names. -/
def leftovers (t : Template) (ps : Parameters) : List (String × String) :=
  ps.toList.filterMap fun (name, value) =>
    if name = actionKey ∨ name ∈ t.names then none else value.map (name, ·)

/-- The query with its question mark, or nothing where there is none. -/
def queryText (pairs : List (String × String)) : List Char :=
  if pairs.isEmpty then [] else '?' :: Form.encode pairs

/-- The URL for an action of a handler. The slashes at the front of the template are left to the
base. -/
def build? (r : Route) (handler : Option String) (action : String) (ps : Parameters)
    (base : String) : Option String := do
  guard (r.handler = handler ∧ r.actions.contains action = true)
  let path ← r.pattern.template.fill ps
  return base ++ .ofList
    (path.drop r.pattern.template.leadingSlashes ++ queryText (leftovers r.pattern.template ps))

/-- The URL for an invocation. -/
def construct? (r : Route) (i : Invocation) (base : String) : Option String :=
  r.build? i.handler i.action i.parameters base

/-- A URL with all that is reported of it. -/
structure BuildReport where
  url : Option String
  count : Count
  event : Event

/-- Try to build a URL. -/
def tryBuild (r : Route) (handler : Option String) (action : String) (ps : Parameters)
    (base : String) : BuildReport :=
  match r.build? handler action ps base with
  | some url => ⟨some url, .built r.path, .built r.path action url⟩
  | none => ⟨none, .notBuilt r.path, .notBuilt r.path action⟩

end Route

end PathRoute
