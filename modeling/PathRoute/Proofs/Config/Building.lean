import PathRoute.Config.Load
import PathRoute.Proofs.Config.Checking
import PathRoute.Proofs.Route.Settings

/-!
# Routes of a configuration

The routes of a configuration can be made just if none of its problems is an invalid route. If they
can, they are as they are specified, and if not, the first invalid route is the one at fault.
-/

namespace PathRoute.Config

variable {c : Config} {s : RouteSpec} {r : Route} {ss : List Setting} {specs : List RouteSpec}
  {rs : List Route} {e : BuildError} {start index : Nat} {path : String} {cause : RouteError}

/-! ## One route -/

theorem mapM_eq_ok_iff {α β ε : Type} {f : α → Except ε β} {xs : List α} {ys : List β} :
    xs.mapM f = .ok ys ↔ List.Forall₂ (fun x y => f x = .ok y) xs ys := by
  induction xs generalizing ys with
  | nil => cases ys <;> simp [pure, Except.pure]
  | cons x xs ih =>
    have htail : ∀ ys, xs.mapM f = .ok ys ↔ List.Forall₂ (fun x y => f x = .ok y) xs ys :=
      fun _ => ih
    rw [List.mapM_cons]
    cases hx : f x with
    | error e => cases ys <;> simp [bind, Except.bind, hx]
    | ok y =>
      cases hxs : xs.mapM f with
      | error e => cases ys <;> simp [bind, Except.bind, ← htail, hxs]
      | ok zs => cases ys <;> simp [bind, Except.bind, pure, Except.pure, ← htail, hxs, hx]

theorem exists_of_mem_mapM {α β ε : Type} {f : α → Except ε β} {xs : List α} {ys : List β} {y : β}
    (h : xs.mapM f = .ok ys) (hy : y ∈ ys) : ∃ x ∈ xs, f x = .ok y := by
  have hall := mapM_eq_ok_iff.mp h
  clear h
  induction hall with
  | nil => cases hy
  | @cons x _ xs _ hx _ ih =>
    rcases List.mem_cons.mp hy with rfl | hy
    · exact ⟨x, List.mem_cons_self, hx⟩
    · obtain ⟨w, hw, hfw⟩ := ih hy
      exact ⟨w, List.mem_cons_of_mem _ hw, hfw⟩

/-- What is set for the verbs of a route is verbs and actions. -/
theorem forall_of_methodSettings {m : Methods} (h : m.settings = .ok ss) :
    ∀ x ∈ ss, (∃ v, x = .verb v) ∨ ∃ v action, x = .action v action := by
  have hmap {β : Type} {f : β → Setting} {v : Except RouteError β} {x : Setting}
      (hx : v.map f = .ok x) : ∃ b, x = f b := by
    cases v with
    | error e => cases hx
    | ok b => exact ⟨b, (Except.ok.inj hx).symm⟩
  intro x hx
  cases m with
  | list verbs =>
    obtain ⟨text, -, htext⟩ := exists_of_mem_mapM h hx
    exact .inl (hmap htext)
  | table actions =>
    obtain ⟨⟨text, action⟩, -, htext⟩ := exists_of_mem_mapM h hx
    obtain ⟨v, hv⟩ := hmap htext
    exact .inr ⟨v, action, hv⟩

/-- The settings of a route, with those for its verbs. -/
def settingsWith (s : RouteSpec) (methods : List Setting) : List Setting :=
  .enabled (!s.disabled) :: ((s.handler.map .handler).toList ++ methods ++
    s.parameters.toList.flatMap (fun (name, p) => p.settings name) ++
    (if s.formats.isEmpty then [] else [.formats ⟨s.formats⟩]) ++
    (s.pinned.map .pinned).toList)

theorem exists_of_route (h : s.route = .ok r) : ∃ methods, s.methods.settings = .ok methods ∧
    Route.ofSettings s.path (settingsWith s methods) = .ok r := by
  cases hm : s.methods.settings with
  | error cause =>
    simp only [RouteSpec.route, RouteSpec.settings, hm] at h
    cases h
  | ok methods =>
    simp only [RouteSpec.route, RouteSpec.settings, hm] at h
    exact ⟨methods, rfl, h⟩

theorem filterMap_parameterSettings {α : Type} {g : Setting → Option α}
    (hrequirement : ∀ name text, g (.requirement name text) = none)
    (hdefault : ∀ name value, g (.default name value) = none) :
    (s.parameters.toList.flatMap fun (name, p) => p.settings name).filterMap g = [] := by
  refine List.filterMap_eq_nil_iff.mpr fun x hx => ?_
  obtain ⟨⟨name, p⟩, -, hx⟩ := List.mem_flatMap.mp hx
  simp only [ParameterRules.settings, List.mem_append, Option.mem_toList, Option.map_eq_some_iff]
    at hx
  rcases hx with ⟨text, -, rfl⟩ | ⟨value, -, rfl⟩
  · exact hrequirement name text
  · exact hdefault name value

/-- The settings that are neither for verbs nor for placeholders. -/
theorem filterMap_settingsWith {α : Type} {g : Setting → Option α} {methods : List Setting}
    (hm : s.methods.settings = .ok methods) (hverb : ∀ v, g (.verb v) = none)
    (haction : ∀ v action, g (.action v action) = none)
    (hrequirement : ∀ name text, g (.requirement name text) = none)
    (hdefault : ∀ name value, g (.default name value) = none) :
    (settingsWith s methods).filterMap g =
      (.enabled (!s.disabled) :: ((s.handler.map .handler).toList ++
        (if s.formats.isEmpty then [] else [.formats ⟨s.formats⟩]) ++
        (s.pinned.map .pinned).toList)).filterMap g := by
  have hmethods : methods.filterMap g = [] := by
    refine List.filterMap_eq_nil_iff.mpr fun x hx => ?_
    rcases forall_of_methodSettings hm x hx with ⟨v, rfl⟩ | ⟨v, action, rfl⟩
    · exact hverb v
    · exact haction v action
  have hparameters := filterMap_parameterSettings (s := s) hrequirement hdefault
  simp only [settingsWith, List.filterMap_cons, List.filterMap_append, hmethods, hparameters,
    List.append_nil]

/-- The route is as it is specified. -/
structure Describes (s : RouteSpec) (r : Route) : Prop where
  path_eq : r.path = s.path
  handler_eq : r.handler = s.handler
  enabled_eq : r.enabled = !s.disabled
  pinned_eq : r.pinned = s.pinned

theorem describes_of_route (h : s.route = .ok r) : Describes s r := by
  obtain ⟨methods, hmethods, hbuild⟩ := exists_of_route h
  have hm := Draft.made_of_build hbuild
  refine ⟨hm.path_eq, ?_, ?_, ?_⟩
  · rw [hm.handler_eq, Draft.handler_setBy.ofSettings, filterMap_settingsWith hmethods]
    · cases s.handler <;> cases s.formats <;> cases s.pinned <;> rfl
    all_goals simp [Setting.handler?]
  · rw [hm.enabled_eq, Draft.enabled_setBy.ofSettings, filterMap_settingsWith hmethods]
    · cases s.handler <;> cases s.formats <;> cases s.pinned <;> rfl
    all_goals simp [Setting.enabled?]
  · rw [hm.pinned_eq, Draft.pinned_setBy.ofSettings, filterMap_settingsWith hmethods]
    · cases s.handler <;> cases s.formats <;> cases s.pinned <;> rfl
    all_goals simp [Setting.pinned?]

/-! ## All routes -/

theorem routesFrom_eq_ok_iff :
    routesFrom start specs = .ok rs ↔ List.Forall₂ (fun s r => s.route = .ok r) specs rs := by
  induction specs generalizing start rs with
  | nil => cases rs <;> simp [routesFrom]
  | cons s rest ih =>
    have htail : ∀ rs, routesFrom (start + 1) rest = .ok rs ↔
        List.Forall₂ (fun s r => s.route = .ok r) rest rs := fun rs => ih
    rw [routesFrom]
    cases hs : s.route with
    | error cause => cases rs <;> simp [hs]
    | ok r =>
      cases hrest : routesFrom (start + 1) rest with
      | error e => cases rs <;> simp [Except.map, ← htail, hrest]
      | ok rs' => cases rs <;> simp [Except.map, ← htail, hrest, hs]

/-- The route at a place is made from what is specified there. -/
theorem route_of_build (hb : build c = .ok rs) (hs : c.routes[index]? = some s)
    (hr : rs[index]? = some r) : s.route = .ok r := by
  obtain ⟨-, hget⟩ := List.forall₂_iff_get.mp (routesFrom_eq_ok_iff.mp hb)
  obtain ⟨hspec, rfl⟩ := List.getElem?_eq_some_iff.mp hs
  obtain ⟨hroute, rfl⟩ := List.getElem?_eq_some_iff.mp hr
  exact hget index hspec hroute

theorem exists_of_routesFrom_eq_error (h : routesFrom start specs = .error e) :
    ∃ k s, specs[k]? = some s ∧ s.route = .error e.cause ∧ e.index = start + k ∧
      ∀ j t, j < k → specs[j]? = some t → ∃ r, t.route = .ok r := by
  induction specs generalizing start with
  | nil => cases h
  | cons s rest ih =>
    rw [routesFrom] at h
    split at h
    · rename_i cause hs
      cases h
      exact ⟨0, s, rfl, hs, rfl, fun j t hj => absurd hj (Nat.not_lt_zero j)⟩
    · rename_i r hs
      cases hrest : routesFrom (start + 1) rest with
      | ok rs =>
        rw [hrest] at h
        cases h
      | error e' =>
        rw [hrest] at h
        cases h
        obtain ⟨k, u, hu, hcause, hindex, hbefore⟩ := ih hrest
        refine ⟨k + 1, u, hu, hcause, by omega, fun j t hj ht => ?_⟩
        cases j with
        | zero =>
          cases ht
          exact ⟨r, hs⟩
        | succ j => exact hbefore j t (Nat.lt_of_succ_lt_succ hj) ht

/-- Invalid routes are reported at their places. -/
theorem invalid_mem_problems_iff :
    .invalid index path cause ∈ problems c ↔
      ∃ s, c.routes[index]? = some s ∧ path = s.path ∧ s.route = .error cause := by
  have hown : .invalid index path cause ∈ problems c ↔
      .invalid index path cause ∈ (about index (problems c)).filter (!·.isDuplicate) := by
    simp [about, Problem.index?, Problem.isDuplicate]
  rw [hown, filter_about_problems]
  cases c.routes[index]? with
  | none => simp
  | some s =>
    simp only [Option.map_some, Option.getD_some, Option.some.injEq, exists_eq_left']
    rw [ownProblems]
    cases s.route with
    | error other => simp [eq_comm]
    | ok r => simp

theorem not_invalid_of_build (h : build c = .ok rs) :
    .invalid index path cause ∉ problems c := by
  intro hmem
  obtain ⟨s, hs, -, hcause⟩ := invalid_mem_problems_iff.mp hmem
  obtain ⟨hlength, hget⟩ := List.forall₂_iff_get.mp (routesFrom_eq_ok_iff.mp h)
  obtain ⟨hlt, rfl⟩ := List.getElem?_eq_some_iff.mp hs
  have hok := hget index hlt (hlength ▸ hlt)
  cases hcause.symm.trans hok

/-- The fault that is reported when the routes are made is that of the first invalid route. -/
theorem isLeast_of_build (h : build c = .error e) :
    IsLeast {index | ∃ path cause, .invalid index path cause ∈ problems c} e.index ∧
      ∀ path cause, .invalid e.index path cause ∈ problems c → cause = e.cause := by
  obtain ⟨k, s, hs, hcause, hindex, hbefore⟩ := exists_of_routesFrom_eq_error h
  rw [Nat.zero_add] at hindex
  subst hindex
  refine ⟨⟨⟨s.path, e.cause, invalid_mem_problems_iff.mpr ⟨s, hs, rfl, hcause⟩⟩, ?_⟩, ?_⟩
  · rintro index ⟨path, cause, hmem⟩
    obtain ⟨t, ht, -, hother⟩ := invalid_mem_problems_iff.mp hmem
    refine Nat.le_of_not_lt fun hlt => ?_
    obtain ⟨r, hr⟩ := hbefore index t hlt ht
    cases hr.symm.trans hother
  · intro path cause hmem
    obtain ⟨t, ht, -, hother⟩ := invalid_mem_problems_iff.mp hmem
    cases hs.symm.trans ht
    exact Except.error.inj (hother.symm.trans hcause)

theorem exists_build_of_problems (h : problems c = []) : ∃ rs, build c = .ok rs := by
  cases hb : build c with
  | ok rs => exact ⟨rs, rfl⟩
  | error e =>
    obtain ⟨⟨⟨path, cause, hmem⟩, -⟩, -⟩ := isLeast_of_build hb
    rw [h] at hmem
    cases hmem

theorem problems_of_parse {text : String} (h : parse text = .ok c) : problems c = [] := by
  rw [parse] at h
  split at h
  · rw [accept] at h
    split at h
    · rename_i hnone
      cases h
      exact hnone
    · cases h
  · cases h

theorem exists_parse_of_load {bytes : List UInt8} (h : load bytes = .ok c) :
    ∃ text, parse text = .ok c := by
  rw [load] at h
  split at h
  · exact ⟨_, h⟩
  · cases h

/-- The routes of a configuration can be made just if no invalid route is reported. If they cannot,
the fault is that of the first invalid route; and if they can, each is as it is specified. So the
routes of a configuration that was accepted can always be made. -/
theorem build_agrees (c : Config) :
    ((∃ rs, build c = .ok rs) ↔ ∀ index path cause, .invalid index path cause ∉ problems c) ∧
    (∀ e, build c = .error e →
      IsLeast {index | ∃ path cause, .invalid index path cause ∈ problems c} e.index ∧
      ∀ path cause, .invalid e.index path cause ∈ problems c → cause = e.cause) ∧
    (∀ rs, build c = .ok rs → List.Forall₂ Describes c.routes rs) ∧
    (∀ text, parse text = .ok c → ∃ rs, build c = .ok rs) ∧
    ∀ bytes, load bytes = .ok c → ∃ rs, build c = .ok rs := by
  have hbuild : (∀ index path cause, .invalid index path cause ∉ problems c) →
      ∃ rs, build c = .ok rs := by
    intro hvalid
    cases h : build c with
    | ok rs => exact ⟨rs, rfl⟩
    | error e =>
      obtain ⟨⟨⟨path, cause, hmem⟩, -⟩, -⟩ := isLeast_of_build h
      exact absurd hmem (hvalid _ path cause)
  have hparse : ∀ text, parse text = .ok c → ∃ rs, build c = .ok rs := by
    intro text h
    refine hbuild fun index path cause hmem => ?_
    rw [problems_of_parse h] at hmem
    cases hmem
  refine ⟨⟨?_, hbuild⟩, fun e h => isLeast_of_build h, fun rs h => ?_, hparse, fun bytes h => ?_⟩
  · rintro ⟨rs, h⟩ index path cause
    exact not_invalid_of_build h
  · exact (routesFrom_eq_ok_iff.mp h).imp fun s r => describes_of_route
  · obtain ⟨text, htext⟩ := exists_parse_of_load h
    exact hparse text htext

/-- Of two routes at fault the first is told. -/
example : build { routes := [{ path := "/a" }, { path := "/b]" },
      { path := "/c", pinned := some "yaml" }] } =
    .error ⟨1, .pattern "/b]" (.template (.unexpectedClose 2))⟩ := by
  decide +kernel

end PathRoute.Config
