import PathRoute.Proofs.Text.Reader
import PathRoute.Route.Draft
import PathRoute.Routes

/-!
# Trying routes in order

A search over routes answers as the first route that has an answer of its own. It reports what the
routes up to this one report, one count for each, and the routes behind it change nothing.
-/

namespace PathRoute

/-- What a counter shows of a count: its own name, the route and the outcome. -/
def Count.labels (c : Count) : String × String × String := (c.name, c.route, c.outcome)

namespace Route

variable {r : Route} {q : Request} {handler : Option String} {action : String} {ps : Parameters}
  {base : String}

/-- The outcome that is counted when a route is tried with a request. -/
def matchOutcome (r : Route) (q : Request) : String :=
  match r.answer q with
  | .ok _ => "matched"
  | .error reason => reason.label

/-- The outcome that is counted when a route is to build a URL. -/
def buildOutcome (r : Route) (handler : Option String) (action : String) (ps : Parameters)
    (base : String) : String :=
  if (r.build? handler action ps base).isSome then "built" else "no_match"

theorem matchOutcome_eq_matched_iff : r.matchOutcome q = "matched" ↔ ∃ i, r.answer q = .ok i := by
  unfold matchOutcome
  cases r.answer q with
  | ok i => simp
  | error reason => cases reason <;> simp [Refusal.label]

theorem buildOutcome_eq_built_iff : r.buildOutcome handler action ps base = "built" ↔
    ∃ url, r.build? handler action ps base = some url := by
  unfold buildOutcome
  cases r.build? handler action ps base <;> simp

end Route

namespace Routes

variable {α : Type} {attempt : Route → Attempt α} {answer : Route → Option α}
  {labels : Route → String × String × String} {told : Route → α → List Route.Notification}
  {before rs : List Route} {r : Route} {a : α}

/-! ## Searches -/

/-- Routes without an answer are passed over, and what they report is kept. -/
theorem search_append_of_none (h : ∀ r ∈ before, (attempt r).answer = none) (start : Nat)
    (rs : List Route) :
    search attempt start (before ++ rs) =
      { found := (search attempt (start + before.length) rs).found
        counts := before.flatMap (fun r => (attempt r).counts) ++
          (search attempt (start + before.length) rs).counts
        notifications := before.flatMap (fun r => (attempt r).notifications) ++
          (search attempt (start + before.length) rs).notifications } := by
  induction before generalizing start with
  | nil => rfl
  | cons r before ih =>
    obtain ⟨hr, hbefore⟩ := List.forall_mem_cons.mp h
    have hplace : start + 1 + before.length = start + (r :: before).length := by
      simp only [List.length_cons]
      omega
    simp only [List.cons_append, search, hr, ih hbefore, hplace, List.flatMap_cons,
      List.append_assoc]

theorem search_cons_of_some (h : (attempt r).answer = some a) (start : Nat) (rs : List Route) :
    search attempt start (r :: rs) =
      ⟨some (start, a), (attempt r).counts, (attempt r).notifications⟩ := by
  simp only [search, h]

/-- Once a route has answered, the routes behind it are not tried. -/
theorem search_append_of_isSome {start : Nat} (h : (search attempt start rs).found.isSome)
    (more : List Route) : search attempt start (rs ++ more) = search attempt start rs := by
  induction rs generalizing start with
  | nil => cases h
  | cons r rs ih =>
    cases hr : (attempt r).answer with
    | some a => rw [List.cons_append, search_cons_of_some hr, search_cons_of_some hr]
    | none =>
      simp only [search, hr] at h
      simp only [List.cons_append, search, hr, ih h]

/-! ## What a search comes to -/

/-- What a search over all of the routes has come to, told by what each route answers on its own,
how it is counted, and who is told of its answer. -/
inductive Tried (answer : Route → Option α) (labels : Route → String × String × String)
    (told : Route → α → List Route.Notification) : List Route → Search α → Prop where
  /-- A route answers and none before it does. It is the last that is counted. -/
  | answered {before after : List Route} {r : Route} {a : α} {s : Search α}
      (unanswered_before : ∀ p ∈ before, answer p = none)
      (answer_eq : answer r = some a)
      (found : s.found = some (before.length, a))
      (counts : s.counts.map Count.labels = (before ++ [r]).map labels)
      (notifications : s.notifications = told r a) :
      Tried answer labels told (before ++ r :: after) s
  /-- No route answers. All are counted. -/
  | unanswered {rs : List Route} {s : Search α}
      (unanswered_all : ∀ r ∈ rs, answer r = none)
      (found : s.found = none)
      (counts : s.counts.map Count.labels = rs.map labels)
      (notifications : s.notifications = []) :
      Tried answer labels told rs s

/-- An attempt on each route is counted once, and nobody is told of it where it gives no answer. -/
structure Attempt.Reports (attempt : Route → Attempt α) (answer : Route → Option α)
    (labels : Route → String × String × String) (told : Route → α → List Route.Notification) :
    Prop where
  answer_eq : ∀ r, (attempt r).answer = answer r
  counts : ∀ r, (attempt r).counts.map Count.labels = [labels r]
  notifications : ∀ r, (attempt r).notifications = (answer r).elim [] (told r)

theorem Attempt.Reports.counts_flatMap (h : Reports attempt answer labels told) (rs : List Route) :
    (rs.flatMap fun r => (attempt r).counts).map Count.labels = rs.map labels := by
  rw [List.map_flatMap, funext h.counts, List.map_eq_flatMap]

theorem Attempt.Reports.notifications_flatMap (h : Reports attempt answer labels told)
    (hrs : ∀ r ∈ rs, answer r = none) : (rs.flatMap fun r => (attempt r).notifications) = [] := by
  refine List.flatMap_eq_nil_iff.mpr fun r hr => ?_
  rw [h.notifications, hrs r hr, Option.elim_none]

theorem Attempt.Reports.tried (h : Reports attempt answer labels told) (rs : List Route) :
    Tried answer labels told rs (search attempt 0 rs) := by
  cases hfirst : rs.findSome? answer with
  | none =>
    have hall := List.findSome?_eq_none_iff.mp hfirst
    have hsearch := search_append_of_none (fun r hr => (h.answer_eq r).trans (hall r hr)) 0 []
    rw [List.append_nil] at hsearch
    exact .unanswered hall (by rw [hsearch]; rfl)
      (by rw [hsearch, search, List.append_nil, h.counts_flatMap])
      (by rw [hsearch, h.notifications_flatMap hall]; rfl)
  | some a =>
    obtain ⟨before, r, after, rfl, hr, hbefore⟩ := List.findSome?_eq_some_iff.mp hfirst
    have hsearch :=
      search_append_of_none (fun r hr => (h.answer_eq r).trans (hbefore r hr)) 0 (r :: after)
    rw [search_cons_of_some ((h.answer_eq r).trans hr), Nat.zero_add] at hsearch
    refine .answered hbefore hr (by rw [hsearch]) ?_ ?_
    · rw [hsearch, List.map_append, h.counts_flatMap, h.counts, List.map_append, List.map_singleton]
    · rw [hsearch, h.notifications_flatMap hbefore, h.notifications, hr]
      rfl

theorem matching_reports (q : Request) :
    Attempt.Reports (matching q) (fun r => (r.answer q).toOption)
      (fun r => ("api_route_match_total", r.path, r.matchOutcome q))
      (fun r i => r.observers.map (⟨·, r, i⟩)) := by
  refine ⟨fun r => ?_, fun r => ?_, fun r => ?_⟩
  all_goals
    unfold matching Route.tryMatch
    dsimp only [Route.matchOutcome]
    cases r.answer q <;> rfl

theorem building_reports (handler : Option String) (action : String) (ps : Parameters)
    (base : String) :
    Attempt.Reports (building handler action ps base) (fun r => r.build? handler action ps base)
      (fun r => ("api_route_build_total", r.path, r.buildOutcome handler action ps base))
      (fun _ _ => []) := by
  refine ⟨fun r => ?_, fun r => ?_, fun r => ?_⟩
  all_goals
    unfold building Route.tryBuild
    dsimp only [Route.buildOutcome]
    cases r.build? handler action ps base <;> rfl

/-- The first route that matches a request on its own answers it, and the first that can build a URL
builds it. Each route up to this one is counted once with its own outcome, and the observers of the
answering route alone are told, once each and in their order. Routes that are added behind do not
change what has been found. -/
theorem firstMatch_and_firstBuild (rs : List Route) :
    (∀ q : Request,
      Tried (fun r => (r.answer q).toOption)
        (fun r => ("api_route_match_total", r.path, r.matchOutcome q))
        (fun r i => r.observers.map (⟨·, r, i⟩)) rs (firstMatch q 0 rs) ∧
      (∀ r : Route, r.matchOutcome q = "matched" ↔ ∃ i, r.answer q = .ok i) ∧
      ∀ more, (firstMatch q 0 rs).found.isSome →
        firstMatch q 0 (rs ++ more) = firstMatch q 0 rs) ∧
    ∀ (handler : Option String) (action : String) (ps : Parameters) (base : String),
      Tried (fun r => r.build? handler action ps base)
        (fun r => ("api_route_build_total", r.path, r.buildOutcome handler action ps base))
        (fun _ _ => []) rs (firstBuild handler action ps base 0 rs) ∧
      (∀ r : Route, r.buildOutcome handler action ps base = "built" ↔
        ∃ url, r.build? handler action ps base = some url) ∧
      ∀ more, (firstBuild handler action ps base 0 rs).found.isSome →
        firstBuild handler action ps base 0 (rs ++ more) =
          firstBuild handler action ps base 0 rs := by
  refine ⟨fun q => ⟨(matching_reports q).tried rs, fun _ => Route.matchOutcome_eq_matched_iff,
      fun more h => search_append_of_isSome h more⟩,
    fun handler action ps base => ⟨(building_reports handler action ps base).tried rs,
      fun _ => Route.buildOutcome_eq_built_iff, fun more h => search_append_of_isSome h more⟩⟩

/-- A route that is disabled is counted as such, and the observer that it shares with the next one
is told by that one alone, whatever routes follow. -/
theorem firstMatch_past_disabled :
    ∃ r, Route.ofSettings "/<id>" [.observer "log"] = .ok r ∧
      ∀ more, ∃ s, firstMatch { method := "GET", path := "/7" } 0
          ([r.setEnabled false, r.observe "audit"] ++ more) = s ∧
        s.counts.map Count.labels =
          [("api_route_match_total", "/<id>", "disabled"),
            ("api_route_match_total", "/<id>", "matched")] ∧
        s.notifications.map (·.observer) = ["log", "audit"] := by
  have : ∃ r, Route.ofSettings "/<id>" [.observer "log"] = .ok r ∧
      (firstMatch { method := "GET", path := "/7" } 0
        [r.setEnabled false, r.observe "audit"]).found.isSome ∧
      (firstMatch { method := "GET", path := "/7" } 0
        [r.setEnabled false, r.observe "audit"]).counts.map Count.labels =
          [("api_route_match_total", "/<id>", "disabled"),
            ("api_route_match_total", "/<id>", "matched")] ∧
      (firstMatch { method := "GET", path := "/7" } 0
        [r.setEnabled false, r.observe "audit"]).notifications.map (·.observer) =
          ["log", "audit"] := by
    decide +kernel
  obtain ⟨r, hr, hfound, hcounts, hnotifications⟩ := this
  obtain ⟨hmatch, -⟩ := firstMatch_and_firstBuild [r.setEnabled false, r.observe "audit"]
  obtain ⟨-, -, hmore⟩ := hmatch { method := "GET", path := "/7" }
  exact ⟨r, hr, fun more => ⟨_, hmore more hfound, hcounts, hnotifications⟩⟩

end Routes

end PathRoute
