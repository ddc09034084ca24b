import PathRoute.Actions
import PathRoute.Form

/-!
# Requests

What a route looks at in a request: its method and path, and named texts from the headers, the
query and the body. Clients that can send few methods name another one in a header or in the query.
-/

namespace PathRoute

structure Request where
  method : String
  /-- The path without the query. -/
  path : String
  /-- The headers by their names in lower case. -/
  headers : Entries := ∅
  query : Entries := ∅
  post : Entries := ∅
  files : List String := []
  secured : Bool := false
  deriving DecidableEq

namespace Request

/-- The request for a target: its path, and the query after the first question mark. -/
def ofTarget (target method : String) : Request :=
  let isPath (c : Char) : Bool := c != '?'
  { method
    path := .ofList (target.toList.takeWhile isPath)
    query := Form.parse (.ofList ((target.toList.dropWhile isPath).drop 1)) }

/-- Set a header. -/
def withHeader (r : Request) (name value : String) : Request :=
  { r with headers := r.headers.insert name.toLower value }

/-- The value of a header, by its name in either case. -/
def header? (r : Request) (name : String) : Option String := r.headers[name.toLower]?

/-- The media types that the client accepts. -/
def accept (r : Request) : String := (r.header? "accept").getD ""

end Request

/-! ## Verb overrides -/

/-- The header that overrides the method of a request. -/
def overrideHeader : String := "X-HTTP-Method-Override"

/-- The query entry that overrides the method of a request. -/
def overrideQuery : String := "__apiRouteMethod"

namespace Request

/-- The method named in the header, unless it is blank. -/
def headerVerb? (r : Request) : Option String :=
  ((r.header? overrideHeader).map trim).filter (· ≠ "") |>.map String.toUpper

/-- The method named in the query, if there is an action for it. -/
def queryVerb? (r : Request) (t : Actions) : Option String :=
  (r.query[overrideQuery]?.map fun verb => (trim verb).toUpper).filter fun verb =>
    (t.forText? verb).isSome

/-- The verb that a request is taken for, in upper case: by its header, else by its query, else by
its method. -/
def verb (r : Request) (t : Actions) : String :=
  (r.headerVerb? <|> r.queryVerb? t).getD r.method.toUpper

/-- A request that names no other verb is taken for its method. -/
theorem verb_eq_method {r : Request} {t : Actions} (hheader : r.header? overrideHeader = none)
    (hquery : r.query[overrideQuery]? = none) : r.verb t = r.method.toUpper := by
  have hheaderVerb : r.headerVerb? = none := by simp [headerVerb?, hheader]
  have hqueryVerb : r.queryVerb? t = none := by simp [queryVerb?, hquery]
  rw [verb, hheaderVerb, hqueryVerb]
  rfl

/-- A request by a verb that names no other one is for the action of this verb. -/
theorem forText?_verb_of_method {r : Request} {t : Actions} {v : Verb} (hmethod : r.method = v.name)
    (hheader : r.header? overrideHeader = none) (hquery : r.query[overrideQuery]? = none) :
    t.forText? (r.verb t) = t.get v := by
  rw [verb_eq_method hheader hquery, hmethod, Verb.toUpper_name, Actions.forText?_name]

end Request

end PathRoute
