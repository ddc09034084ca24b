import PathRoute.Route.Basic

/-!
# Making routes

A route is made from its path and a list of settings. Of settings for one thing the last counts,
and once a verb has been set the verbs that are not set have no action.
-/

namespace PathRoute

/-- Why a route cannot be made. -/
inductive RouteError where
  | pattern (path : String) (cause : PatternError)
  | unknownVerb (text : String)
  /-- The pinned format is none of the route's formats. -/
  | unknownFormat (name : String)
  deriving DecidableEq, Repr

def RouteError.message : RouteError → String
  | .pattern path cause => cause.message path
  | .unknownVerb text => s!"unknown HTTP method '{text}'"
  | .unknownFormat name => s!"unknown format '{name}'"

/-- One setting of a route to be made. -/
inductive Setting where
  | handler (name : String)
  /-- Support a verb with its default action. -/
  | verb (v : Verb)
  | action (v : Verb) (action : String)
  | requirement (name requirement : String)
  | default (name value : String)
  | format (f : Format)
  /-- Replace all formats. -/
  | formats (t : Formats)
  | pinned (name : String)
  | enabled (value : Bool)
  | observer (name : String)
  deriving DecidableEq, Repr

/-- What has been set of a route. -/
structure Draft where
  handler : Option String := none
  actions : Option Actions := none
  placeholders : Placeholders := ∅
  formats : Formats := .defaults
  pinned : Option String := none
  enabled : Bool := true
  observers : List String := []
  deriving DecidableEq

namespace Draft

def apply (d : Draft) : Setting → Draft
  | .handler name => { d with handler := some name }
  | .verb v => { d with actions := some ((d.actions.getD .empty).enable v) }
  | .action v action => { d with actions := some ((d.actions.getD .empty).set v action) }
  | .requirement name requirement =>
    { d with placeholders := d.placeholders.setRequirement name requirement }
  | .default name value => { d with placeholders := d.placeholders.setDefault name value }
  | .format f => { d with formats := d.formats.insert f }
  | .formats t => { d with formats := t }
  | .pinned name => { d with pinned := some name }
  | .enabled value => { d with enabled := value }
  | .observer name => { d with observers := d.observers ++ [name] }

/-- The draft after settings. -/
def ofSettings (ss : List Setting) : Draft := ss.foldl apply {}

/-- The route that a draft describes for a path. A format that is not known is reported before the
path is looked at. -/
def build (d : Draft) (path : String) : Except RouteError Route :=
  if hp : ∀ name, d.pinned = some name → d.formats.contains name = true then
    match hc : Pattern.compile path d.placeholders with
    | .error cause => .error (.pattern path cause)
    | .ok pattern => .ok {
        handler := d.handler
        actions := d.actions.getD .defaults
        placeholders := d.placeholders
        formats := d.formats
        pinned := d.pinned
        enabled := d.enabled
        pattern
        observers := d.observers
        compile_path := by rw [(Pattern.compiled_of_compile hc).path_eq, hc]
        contains_pinned := hp }
  else .error (.unknownFormat (d.pinned.getD ""))

theorem exists_build {d : Draft} {path : String}
    (hp : ∀ name, d.pinned = some name → d.formats.contains name = true)
    (hc : (Pattern.compile path d.placeholders).isOk = true) : ∃ r, d.build path = .ok r := by
  obtain ⟨p, hcompile⟩ := exists_of_isOk hc
  rw [build, dif_pos hp]
  split
  · rename_i heq
    cases heq.symm.trans hcompile
  · exact ⟨_, rfl⟩

/-- A route is as its draft says. -/
structure Made (d : Draft) (path : String) (r : Route) : Prop where
  path_eq : r.path = path
  handler_eq : r.handler = d.handler
  actions_eq : r.actions = d.actions.getD .defaults
  placeholders_eq : r.placeholders = d.placeholders
  formats_eq : r.formats = d.formats
  pinned_eq : r.pinned = d.pinned
  enabled_eq : r.enabled = d.enabled
  observers_eq : r.observers = d.observers

theorem made_of_build {d : Draft} {path : String} {r : Route} (h : d.build path = .ok r) :
    d.Made path r := by
  unfold build at h
  split at h
  · split at h
    · cases h
    · rename_i hc
      cases h
      exact ⟨(Pattern.compiled_of_compile hc).path_eq, rfl, rfl, rfl, rfl, rfl, rfl, rfl⟩
  · cases h

end Draft

namespace Route

/-- The route with a path and settings. -/
def ofSettings (path : String) (ss : List Setting) : Except RouteError Route :=
  (Draft.ofSettings ss).build path

/-- A path that compiles is the path of a route without settings. -/
theorem exists_ofSettings_nil (path : String) (h : (Pattern.compile path ∅).isOk = true) :
    ∃ r, ofSettings path [] = .ok r ∧ r.path = path ∧ r.handler = none ∧ r.actions = .defaults ∧
      r.placeholders = ∅ ∧ r.enabled = true := by
  obtain ⟨r, hr⟩ := Draft.exists_build (d := {}) (fun _ hname => nomatch hname) h
  have hm := Draft.made_of_build hr
  exact ⟨r, hr, hm.path_eq, hm.handler_eq, hm.actions_eq, hm.placeholders_eq, hm.enabled_eq⟩

end Route

end PathRoute
