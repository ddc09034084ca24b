import PathRoute.Route.Build
import PathRoute.Route.Match

/-!
# Lists of routes

Routes are tried in order until one answers. What the ones before it report is kept.
-/

namespace PathRoute.Routes

/-- The answer of the first route that gives one, with its place, and all that has been reported up
to it. -/
structure Search (α : Type) where
  found : Option (Nat × α) := none
  counts : List Count := []
  notifications : List Route.Notification := []

/-- The answer of one route, if it has one, and what it reports. -/
structure Attempt (α : Type) where
  answer : Option α
  counts : List Count
  notifications : List Route.Notification

variable {α : Type}

/-- Try routes in order, where the first route of the list has the place `start`. -/
def search (attempt : Route → Attempt α) (start : Nat) : List Route → Search α
  | [] => {}
  | r :: rs =>
    let report := attempt r
    match report.answer with
    | some a => ⟨some (start, a), report.counts, report.notifications⟩
    | none =>
      let later := search attempt (start + 1) rs
      ⟨later.found, report.counts ++ later.counts, report.notifications ++ later.notifications⟩

/-- Try to match a request. -/
def matching (q : Request) (r : Route) : Attempt Invocation :=
  let report := r.tryMatch q
  ⟨report.answer.toOption, report.counts, report.notifications⟩

/-- Try to build a URL. No observer is told of it. -/
def building (handler : Option String) (action : String) (ps : Parameters) (base : String)
    (r : Route) : Attempt String :=
  let report := r.tryBuild handler action ps base
  ⟨report.url, [report.count], []⟩

/-- The invocation of the first route that answers a request. -/
def firstMatch (q : Request) : Nat → List Route → Search Invocation := search (matching q)

/-- The URL of the first route that can build one. -/
def firstBuild (handler : Option String) (action : String) (ps : Parameters) (base : String) :
    Nat → List Route → Search String := search (building handler action ps base)

end PathRoute.Routes
