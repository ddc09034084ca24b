import PathRoute.Proofs.Config.Building
import PathRoute.Proofs.Formats
import PathRoute.Proofs.Overwriting
import PathRoute.Proofs.Route.Matching

/-!
# Negotiated formats

The routes of a configuration have the formats that are listed for them, as they are listed. Nothing
keeps two of them from having one name: a route then answers in a format by whose name another one
is found, which the client need not accept.
-/

namespace PathRoute

/-! ## The formats of a route -/

/-- The formats that a setting puts in the place of all others. -/
def Setting.formats? : Setting → Option Formats
  | .formats t => some t
  | _ => none

/-- The single format that a setting adds. -/
def Setting.format? : Setting → Option Format
  | .format f => some f
  | _ => none

/-- After settings that add no single format, the formats are those of the last table. -/
theorem Draft.formats_foldl {ss : List Setting} (h : ∀ f, .format f ∉ ss) (d : Draft) :
    (ss.foldl apply d).formats = ((ss.filterMap Setting.formats?).getLast?).getD d.formats := by
  refine foldl_eq_getLast?_getD (fun d s hs => ?_) d
  cases s with
  | format f => exact absurd hs (h f)
  | _ => rfl

namespace Config

variable {c : Config} {s : RouteSpec} {r : Route} {rs : List Route} {q : Request} {i : Invocation}

/-- The formats of a route: those listed, or else the default ones. -/
def RouteSpec.table (s : RouteSpec) : Formats :=
  if s.formats.isEmpty then .defaults else ⟨s.formats⟩

theorem filterMap_formats?_settingsWith {methods : List Setting}
    (hm : s.methods.settings = .ok methods) :
    (settingsWith s methods).filterMap Setting.formats? =
      if s.formats.isEmpty then [] else [⟨s.formats⟩] := by
  rw [filterMap_settingsWith hm]
  · cases s.handler <;> cases s.formats <;> cases s.pinned <;> rfl
  all_goals simp [Setting.formats?]

/-- A specification lists all formats at once and adds no single one. -/
theorem format_not_mem_settingsWith {methods : List Setting}
    (hm : s.methods.settings = .ok methods) (f : Format) : .format f ∉ settingsWith s methods := by
  have hnone : (settingsWith s methods).filterMap Setting.format? = [] := by
    rw [filterMap_settingsWith hm]
    · cases s.handler <;> cases s.formats <;> cases s.pinned <;> rfl
    all_goals simp [Setting.format?]
  intro hf
  cases List.filterMap_eq_nil_iff.mp hnone _ hf

theorem formats_of_route (h : s.route = .ok r) : r.formats = s.table := by
  obtain ⟨methods, hmethods, hbuild⟩ := exists_of_route h
  rw [(Draft.made_of_build hbuild).formats_eq, Draft.ofSettings,
    Draft.formats_foldl (format_not_mem_settingsWith hmethods),
    filterMap_formats?_settingsWith hmethods, RouteSpec.table]
  split <;> rfl

/-- Names that are listed once are names that the table has once. -/
theorem nodup_table (h : (s.formats.map (·.name)).Nodup) :
    (s.table.entries.map (·.name)).Nodup := by
  unfold RouteSpec.table
  split
  · decide
  · exact h

/-! ## The format of an answer -/

/-- Where a route without a pinned format has one that the client accepts, it answers in the first
of them. What is found by the name of that format is accepted too if and only if no earlier format
of the route has the name: so always if the configuration lists no name twice. -/
theorem serves_negotiated_iff {index : Nat} (hb : build c = .ok rs)
    (hs : c.routes[index]? = some s) (hr : rs[index]? = some r) (hpinned : r.pinned = none)
    (hi : (r.tryMatch q).answer = .ok i)
    (hf : ∃ f ∈ r.formats.entries, Formats.Accepted q.accept f) :
    ∃ f, r.formats.entries.find? (Formats.Accepted q.accept ·) = some f ∧ i.format = f.name ∧
      (r.formats.Serves q.accept i.format ↔ r.formats.named? f.name = some f) ∧
      ((s.formats.map (·.name)).Nodup → r.formats.Serves q.accept i.format) := by
  obtain ⟨f, hfind⟩ : ∃ f, r.formats.entries.find? (Formats.Accepted q.accept ·) = some f := by
    rw [← Option.isSome_iff_exists, List.find?_isSome]
    simpa using hf
  have hformat : i.format = f.name := by
    rw [Route.answer_tryMatch] at hi
    rw [Route.eq_of_answer hi, hpinned]
    exact Formats.negotiate_eq hfind
  have hserves := Formats.serves_iff hfind
  rw [← hformat] at hserves
  refine ⟨f, hfind, hformat, hformat ▸ hserves, fun hnames => hserves.mpr ?_⟩
  rw [hformat]
  refine Formats.named?_of_nodup ?_ (List.mem_of_find?_eq_some hfind)
  rw [formats_of_route (route_of_build hb hs hr)]
  exact nodup_table hnames

/-- A client that accepts the second of two formats. -/
theorem serves_negotiated_csv : ∃ c rs r i, c.routes[0]? = some
      { path := "/a", formats := [⟨"json", "application/json"⟩, ⟨"csv", "text/csv"⟩] } ∧
    build c = .ok rs ∧ rs[0]? = some r ∧
    (r.tryMatch
      { method := "GET", path := "/a", headers := {("accept", "text/csv")} }).answer = .ok i ∧
    r.formats.Serves "text/csv" i.format := by
  let s : RouteSpec :=
    { path := "/a", formats := [⟨"json", "application/json"⟩, ⟨"csv", "text/csv"⟩] }
  let q : Request := { method := "GET", path := "/a", headers := {("accept", "text/csv")} }
  have hmatch : ∃ rs, build { routes := [s] } = .ok rs ∧ ∃ r ∈ rs[0]?, r.pinned = none ∧
      (∃ f ∈ r.formats.entries, Formats.Accepted q.accept f) ∧
      ∃ i, (r.tryMatch q).answer = .ok i ∧ i.format = "csv" := by
    decide +kernel
  obtain ⟨rs, hb, r, hr, hpinned, hf, i, hi, -⟩ := hmatch
  have haccept : q.accept = "text/csv" := by decide +kernel
  obtain ⟨f, -, -, -, hserves⟩ := serves_negotiated_iff (s := s) hb rfl hr hpinned hi hf
  exact ⟨_, rs, r, i, rfl, hb, hr, hi, haccept ▸ hserves (by decide)⟩

/-- Of two formats with one name, the second is accepted and the first is found. -/
theorem not_serves_of_repeated_name :
    let c : Config := { routes := [
      { path := "/a", formats := [⟨"json", "application/json"⟩, ⟨"json", "text/json"⟩] }] }
    let q : Request := { method := "GET", path := "/a", headers := {("accept", "text/json")} }
    problems c = [] ∧ ∃ rs, build c = .ok rs ∧ ∃ r ∈ rs, r.pinned = none ∧
      (∃ f ∈ r.formats.entries, Formats.Accepted q.accept f) ∧
      ∃ i, (r.tryMatch q).answer = .ok i ∧ ¬r.formats.Serves q.accept i.format := by
  decide +kernel

end Config

end PathRoute
