import PathRoute.Invocation
import PathRoute.Request
import PathRoute.Route.Basic
import PathRoute.Route.Event

/-!
# Matching requests

A route answers a request with an invocation if it is enabled, its pattern matches the path, it has
an action for the verb, and every required placeholder has a value. The first of these that fails
is the reason why not.
-/

namespace PathRoute.Route

/-- The parameters that are there before the path is looked at: the query and the action. -/
def seed (query : Entries) (action : String) : Parameters :=
  (query.map fun _ value => some value).insert actionKey (some action)

/-- What the capturing groups stand for, with the texts that they captured. -/
def bindings (p : Pattern) (texts : List (Option String)) :
    List (Option String × Option String) :=
  p.captureOrder.zip (texts.drop 1)

/-- Put the captured texts into parameters. A placeholder that captured nothing takes its default,
or loses its value; a required one is missing. -/
def assign (r : Route) : List (Option String × Option String) → Parameters →
    Except Refusal Parameters
  | [], ps => .ok ps
  | (none, _) :: rest, ps => assign r rest ps
  | (some name, text) :: rest, ps =>
    match text.filter (· ≠ "") with
    | some value => assign r rest (ps.insert name (some value))
    | none =>
      if r.pattern.required.contains name then .error (.missingParameter name)
      else match (r.placeholders.rules name).default with
        | some value => assign r rest (ps.insert name (some value))
        | none => assign r rest (ps.erase name)

/-- The answer to a request. -/
def answer (r : Route) (q : Request) : Except Refusal Invocation := do
  unless r.enabled do throw .disabled
  let some texts := r.pattern.captures? q.path | throw .pathMismatch
  let method := q.verb r.actions
  let some action := r.actions.forText? method | throw .unsupportedMethod
  let parameters ← r.assign (bindings r.pattern texts) (seed q.query action)
  return {
    handler := r.handler
    method
    action
    parameters
    format := r.formats.negotiate q.accept r.pinned
    post := q.post
    files := q.files
    secured := q.secured }

/-- An observer is told of a match with the route and all of the invocation. -/
structure Notification where
  observer : String
  route : Route
  invocation : Invocation
  deriving DecidableEq

/-- What an observer can say of it in a line. -/
def Notification.notice (n : Notification) : Notice :=
  ⟨n.observer, n.route.path, n.invocation.method, n.invocation.action⟩

/-- An answer with all that is reported of it. -/
structure MatchReport where
  answer : Except Refusal Invocation
  counts : List Count
  notifications : List Notification
  events : List Event

/-- The notifications in short. -/
def MatchReport.notices (report : MatchReport) : List Notice :=
  report.notifications.map Notification.notice

/-- Try to match a request. -/
def tryMatch (r : Route) (q : Request) : MatchReport :=
  match r.answer q with
  | .ok i =>
    { answer := .ok i
      counts := [.matched r.path]
      notifications := r.observers.map (⟨·, r, i⟩)
      events := [.matched r.path i.method i.action] }
  | .error reason =>
    let missing := match reason with
      | .missingParameter name => [.emptyPlaceholder r.path name]
      | _ => []
    { answer := .error reason
      counts := [.refused r.path reason]
      notifications := []
      events := missing ++ [.notMatched r.path q.path reason] }

end PathRoute.Route
