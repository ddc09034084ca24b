import Mathlib.Data.List.Sort
import Mathlib.Order.Bounds.Basic
import PathRoute.Config.Load
import PathRoute.Proofs.Template.Marks

/-!
# What is reported of a configuration

The report of a configuration is described part by part, with no mention of how it is put together:
what is said of the base and of the log level, and what is said of each route in turn. A
configuration has just one such report, which is its list of problems. What it says of a route
depends on no later route, and on earlier ones only as far as they are the same.
-/

namespace PathRoute.Config

variable {c : Config} {s : RouteSpec} {specs earlier : List RouteSpec} {index : Nat}
  {ps : List Problem}

/-! ## The parts of a report -/

/-- What is said of the base. -/
inductive BaseReport (c : Config) : List Problem → Prop where
  | fit : c.baseUrl = "" ∨ ['/'] <:+ c.baseUrl.toList → BaseReport c []
  | unfit : c.baseUrl ≠ "" → ¬['/'] <:+ c.baseUrl.toList → BaseReport c [.baseUrl c.baseUrl]

/-- What is said of the log level, whose ASCII case does not matter. -/
inductive LevelReport (c : Config) : List Problem → Prop where
  | known {level : String} :
      level ∈ logLevels → c.logging.level.toLower = level.toLower → LevelReport c []
  | unknown : (∀ level ∈ logLevels, c.logging.level.toLower ≠ level.toLower) →
      LevelReport c [.logLevel c.logging.level]

/-- What is said of a route that stands at a place, as to the routes before it. -/
inductive RepeatReport (specs : List RouteSpec) (index : Nat) (s : RouteSpec) :
    List Problem → Prop where
  | fresh : (∀ (j : Nat) t, j < index → specs[j]? = some t → ¬t.Same s) →
      RepeatReport specs index s []
  | repeated {first : Nat} : IsLeast {j | j < index ∧ ∃ t, specs[j]? = some t ∧ t.Same s} first →
      RepeatReport specs index s [.duplicate index first s.path]

/-- What is said of a route by itself: that it cannot be made, or which names with rules none of the
tokens of its path has, in the order of the names. -/
inductive OwnReport (index : Nat) (s : RouteSpec) : List Problem → Prop where
  | invalid {cause : RouteError} :
      s.route = .error cause → OwnReport index s [.invalid index s.path cause]
  | valid {r : Route} {names : List String} : s.route = .ok r →
      names.Pairwise (fun a b => compare a b = .lt) →
      (∀ name, name ∈ names ↔
        name ∈ s.parameters ∧ name ∉ Template.Token.names s.path.toList) →
      OwnReport index s (names.map (.unused index s.path))

inductive RouteReport (specs : List RouteSpec) (index : Nat) (s : RouteSpec) :
    List Problem → Prop where
  | intro {repeats own : List Problem} : RepeatReport specs index s repeats →
      OwnReport index s own → RouteReport specs index s (repeats ++ own)

/-- The report of a whole configuration: the base, the log level, and the routes in order. -/
inductive Report (c : Config) : List Problem → Prop where
  | intro {base level : List Problem} {routes : List (List Problem)} :
      BaseReport c base → LevelReport c level → routes.length = c.routes.length →
      (∀ (index : Nat) s part, c.routes[index]? = some s → routes[index]? = some part →
        RouteReport c.routes index s part) →
      Report c (base ++ level ++ routes.flatten)

/-- The place of the route that a problem is about. -/
def Problem.index? : Problem → Option Nat
  | .baseUrl _ | .logLevel _ => none
  | .duplicate index _ _ | .invalid index _ _ | .unused index _ _ => some index

def Problem.isDuplicate : Problem → Bool
  | .duplicate .. => true
  | _ => false

/-- The problems of the route at a place. -/
def about (index : Nat) (ps : List Problem) : List Problem := ps.filter (·.index? = some index)

/-! ## Each part is what is computed -/

theorem baseReport_iff : BaseReport c ps ↔ ps = baseProblems c := by
  have hlast : c.baseUrl.toList.getLast? = some '/' ↔ ['/'] <:+ c.baseUrl.toList := by
    rw [List.getLast?_eq_some_iff]
    exact exists_congr fun _ => eq_comm
  simp only [baseProblems, hlast]
  constructor
  · rintro (hfit | ⟨hne, hnot⟩)
    · rw [if_pos hfit]
    · rw [if_neg (not_or.mpr ⟨hne, hnot⟩)]
  · rintro rfl
    split
    · rename_i hfit
      exact .fit hfit
    · rename_i hunfit
      exact .unfit (not_or.mp hunfit).1 (not_or.mp hunfit).2

theorem levelReport_iff : LevelReport c ps ↔ ps = levelProblems c := by
  have hlower : ∀ level ∈ logLevels, level.toLower = level := by decide +kernel
  rw [levelProblems]
  constructor
  · rintro (⟨hmem, heq⟩ | hnone)
    · rw [hlower _ hmem] at heq
      rw [heq, if_pos hmem]
    · rw [if_neg fun hmem => hnone _ hmem (hlower _ hmem).symm]
  · rintro rfl
    split
    · rename_i hmem
      exact .known hmem (hlower _ hmem).symm
    · rename_i hnot
      refine .unknown fun level hmem heq => hnot ?_
      rwa [heq, hlower _ hmem]

/-- The problem that a route is a repeated one. -/
def repeatProblems (earlier : List RouteSpec) (s : RouteSpec) : List Problem :=
  match earlier.findIdx? (fun t => decide (t.Same s)) with
  | some first => [.duplicate earlier.length first s.path]
  | none => []

/-- The problems of a route by itself. -/
def ownProblems (index : Nat) (s : RouteSpec) : List Problem :=
  match s.route with
  | .error cause => [.invalid index s.path cause]
  | .ok r => (s.parameters.keys.filter (· ∉ r.pattern.names)).map (.unused index s.path)

theorem routeProblems_eq (earlier : List RouteSpec) (s : RouteSpec) :
    routeProblems earlier s = repeatProblems earlier s ++ ownProblems earlier.length s := rfl

/-- The index that is found is the least one of a member that passes. -/
theorem findIdx?_eq_some_iff_isLeast {α : Type} {xs : List α} {p : α → Bool} {i : Nat} :
    xs.findIdx? p = some i ↔ IsLeast {j | ∃ x, xs[j]? = some x ∧ p x = true} i := by
  rw [List.findIdx?_eq_some_iff_getElem]
  constructor
  · rintro ⟨hi, hp, hbefore⟩
    refine ⟨⟨xs[i], List.getElem?_eq_getElem hi, hp⟩, ?_⟩
    rintro j ⟨x, hx, hpx⟩
    obtain ⟨hj, rfl⟩ := List.getElem?_eq_some_iff.mp hx
    exact Nat.le_of_not_lt fun hlt => hbefore j hlt hpx
  · rintro ⟨⟨x, hx, hpx⟩, hleast⟩
    obtain ⟨hi, rfl⟩ := List.getElem?_eq_some_iff.mp hx
    refine ⟨hi, hpx, fun j hj hpj => ?_⟩
    have hle := hleast ⟨xs[j], List.getElem?_eq_getElem (hj.trans hi), hpj⟩
    omega

/-- The first of the earlier routes that is the same. -/
theorem findIdx?_same_iff {first : Nat} :
    (specs.take index).findIdx? (fun t => decide (t.Same s)) = some first ↔
      IsLeast {j | j < index ∧ ∃ t, specs[j]? = some t ∧ t.Same s} first := by
  rw [findIdx?_eq_some_iff_isLeast]
  have hset : {j | ∃ t, (specs.take index)[j]? = some t ∧ decide (t.Same s) = true} =
      {j | j < index ∧ ∃ t, specs[j]? = some t ∧ t.Same s} := by
    ext j
    change (∃ t, (specs.take index)[j]? = some t ∧ decide (t.Same s) = true) ↔
      j < index ∧ ∃ t, specs[j]? = some t ∧ t.Same s
    simp only [List.getElem?_take, decide_eq_true_eq]
    split
    · rename_i hj
      simp [hj]
    · rename_i hj
      simp [hj]
  rw [hset]

theorem length_earlier (hs : specs[index]? = some s) : (specs.take index).length = index := by
  obtain ⟨hlt, -⟩ := List.getElem?_eq_some_iff.mp hs
  rw [List.length_take, Nat.min_eq_left hlt.le]

theorem repeatReport_iff (hs : specs[index]? = some s) :
    RepeatReport specs index s ps ↔ ps = repeatProblems (specs.take index) s := by
  rw [repeatProblems, length_earlier hs]
  constructor
  · rintro (hfresh | hleast)
    · have hnone : (specs.take index).findIdx? (fun t => decide (t.Same s)) = none := by
        refine Option.eq_none_iff_forall_ne_some.mpr fun first hfirst => ?_
        obtain ⟨⟨hlt, t, ht, hsame⟩, -⟩ := findIdx?_same_iff.mp hfirst
        exact hfresh first t hlt ht hsame
      rw [hnone]
    · rw [findIdx?_same_iff.mpr hleast]
  · rintro rfl
    split
    · rename_i first hfirst
      exact .repeated (findIdx?_same_iff.mp hfirst)
    · rename_i hnone
      refine .fresh fun j t hj ht hsame => ?_
      have hmem : t ∈ specs.take index := by
        rw [List.mem_iff_getElem?]
        exact ⟨j, by rw [List.getElem?_take, if_pos hj, ht]⟩
      simpa [hsame] using List.findIdx?_eq_none_iff.mp hnone t hmem

/-- Names in order are told by what is among them. -/
theorem sorted_ext {xs ys : List String} (hx : xs.Pairwise fun a b => compare a b = .lt)
    (hy : ys.Pairwise fun a b => compare a b = .lt) (h : ∀ name, name ∈ xs ↔ name ∈ ys) :
    xs = ys := by
  have hantisymm : Std.Antisymm fun a b : String => compare a b = .lt :=
    ⟨fun a b hab hba => by simp [Std.OrientedCmp.gt_of_lt hab] at hba⟩
  have hirrefl : Std.Irrefl fun a b : String => compare a b = .lt :=
    ⟨fun a ha => by simp at ha⟩
  exact hx.eq_of_mem_iff hy h

/-- The names of a route are told by the path that is written. -/
theorem names_of_route {r : Route} (h : s.route = .ok r) :
    r.pattern.names = Template.Token.names s.path.toList := by
  have hpath : r.path = s.path := by
    rw [RouteSpec.route] at h
    cases hsettings : s.settings with
    | error cause =>
      rw [hsettings] at h
      cases h
    | ok settings =>
      rw [hsettings] at h
      exact (Draft.made_of_build h).path_eq
  rw [← hpath, r.compiled.names_eq, ← Template.names_of_parse r.compiled.parse_path]
  rfl

theorem ownReport_iff : OwnReport index s ps ↔ ps = ownProblems index s := by
  rw [ownProblems]
  constructor
  · rintro (hroute | ⟨hroute, hsorted, hmem⟩)
    · rw [hroute]
    · rw [hroute]
      congr 1
      refine sorted_ext hsorted (s.parameters.ordered_keys.filter _) fun name => ?_
      simp [hmem, names_of_route hroute]
  · rintro rfl
    split
    · rename_i cause hroute
      exact .invalid hroute
    · rename_i r hroute
      refine .valid hroute (s.parameters.ordered_keys.filter _) fun name => ?_
      simp [names_of_route hroute]

theorem routeReport_iff (hs : specs[index]? = some s) :
    RouteReport specs index s ps ↔ ps = routeProblems (specs.take index) s := by
  rw [routeProblems_eq, length_earlier hs]
  constructor
  · rintro ⟨hrepeat, hown⟩
    rw [(repeatReport_iff hs).mp hrepeat, ownReport_iff.mp hown]
  · rintro rfl
    exact .intro ((repeatReport_iff hs).mpr rfl) (ownReport_iff.mpr rfl)

/-! ## The whole report -/

/-- The problems of each route, after those before it. -/
def routeParts (specs : List RouteSpec) : List (List Problem) :=
  specs.mapIdx fun index s => routeProblems (specs.take index) s

theorem problemsAfter_eq (earlier specs : List RouteSpec) : problemsAfter earlier specs =
    (specs.mapIdx fun index s => routeProblems (earlier ++ specs.take index) s).flatten := by
  induction specs generalizing earlier with
  | nil => rfl
  | cons s rest ih =>
    rw [problemsAfter, ih, List.mapIdx_cons, List.flatten_cons]
    simp

theorem problems_eq (c : Config) :
    problems c = baseProblems c ++ levelProblems c ++ (routeParts c.routes).flatten := by
  rw [problems, problemsAfter_eq]
  rfl

theorem getElem?_routeParts (specs : List RouteSpec) (index : Nat) :
    (routeParts specs)[index]? = specs[index]?.map (routeProblems (specs.take index)) :=
  List.getElem?_mapIdx

theorem report_iff : Report c ps ↔ ps = problems c := by
  rw [problems_eq]
  constructor
  · rintro ⟨hbase, hlevel, hlength, hparts⟩
    rename_i parts
    have hroutes : parts = routeParts c.routes := by
      refine List.ext_getElem? fun index => ?_
      rw [getElem?_routeParts]
      cases hs : c.routes[index]? with
      | none =>
        rw [List.getElem?_eq_none_iff, ← hlength] at hs
        exact List.getElem?_eq_none_iff.mpr hs
      | some s =>
        obtain ⟨hlt, -⟩ := List.getElem?_eq_some_iff.mp hs
        have hpart := List.getElem?_eq_getElem (hlength ▸ hlt)
        rw [hpart, (routeReport_iff hs).mp (hparts index s _ hs hpart)]
        rfl
    rw [baseReport_iff.mp hbase, levelReport_iff.mp hlevel, hroutes]
  · rintro rfl
    refine .intro (baseReport_iff.mpr rfl) (levelReport_iff.mpr rfl) List.length_mapIdx
      fun index s part hs hpart => ?_
    rw [getElem?_routeParts, hs] at hpart
    exact (routeReport_iff hs).mpr (Option.some.inj hpart).symm

/-! ## What is said of one route -/

theorem index?_of_mem_routeProblems {p : Problem} (h : p ∈ routeProblems earlier s) :
    p.index? = some earlier.length := by
  rw [routeProblems_eq, List.mem_append, repeatProblems, ownProblems] at h
  rcases h with h | h
  · split at h
    · obtain rfl := List.mem_singleton.mp h
      rfl
    · cases h
  · split at h
    · obtain rfl := List.mem_singleton.mp h
      rfl
    · obtain ⟨name, -, rfl⟩ := List.mem_map.mp h
      rfl

theorem about_append (index : Nat) (ps qs : List Problem) :
    about index (ps ++ qs) = about index ps ++ about index qs := List.filter_append ..

theorem about_routeProblems (earlier : List RouteSpec) (s : RouteSpec) (index : Nat) :
    about index (routeProblems earlier s) =
      if earlier.length = index then routeProblems earlier s else [] := by
  split
  · rename_i heq
    refine List.filter_eq_self.mpr fun p hp => ?_
    rw [index?_of_mem_routeProblems hp, heq, decide_eq_true rfl]
  · rename_i hne
    refine List.filter_eq_nil_iff.mpr fun p hp => ?_
    rw [index?_of_mem_routeProblems hp]
    simpa using hne

theorem about_problemsAfter (earlier specs : List RouteSpec) (index : Nat) :
    about index (problemsAfter earlier specs) =
      if earlier.length ≤ index then
        (specs[index - earlier.length]?.map
          (routeProblems (earlier ++ specs.take (index - earlier.length)))).getD []
      else [] := by
  induction specs generalizing earlier with
  | nil => simp [problemsAfter, about]
  | cons s rest ih =>
    rw [problemsAfter, about_append, about_routeProblems, ih, List.length_append,
      List.length_singleton]
    rcases Nat.lt_trichotomy index earlier.length with hlt | rfl | hgt
    · rw [if_neg hlt.ne', if_neg (by omega), if_neg (by omega), List.append_nil]
    · simp
    · rw [if_neg hgt.ne, if_pos (by omega), if_pos hgt.le]
      obtain ⟨k, rfl⟩ := Nat.exists_eq_add_of_lt hgt
      have hk : earlier.length + k + 1 - earlier.length = k + 1 := by omega
      rw [hk]
      simp

/-- The problems of a route are those that it has after the routes before it. -/
theorem about_problems (c : Config) (index : Nat) : about index (problems c) =
    (c.routes[index]?.map (routeProblems (c.routes.take index))).getD [] := by
  have hbase : about index (baseProblems c) = [] := by
    rw [baseProblems]
    split <;> rfl
  have hlevel : about index (levelProblems c) = [] := by
    rw [levelProblems]
    split <;> rfl
  rw [problems, about_append, about_append, hbase, hlevel, about_problemsAfter]
  simp

/-- But for its being a repeated one, a route has the problems that it has by itself. -/
theorem filter_routeProblems (earlier : List RouteSpec) (s : RouteSpec) :
    (routeProblems earlier s).filter (!·.isDuplicate) = ownProblems earlier.length s := by
  have hrepeat : (repeatProblems earlier s).filter (!·.isDuplicate) = [] := by
    rw [repeatProblems]
    split <;> rfl
  have hown : (ownProblems earlier.length s).filter (!·.isDuplicate) =
      ownProblems earlier.length s := by
    refine List.filter_eq_self.mpr fun p hp => ?_
    rw [ownProblems] at hp
    split at hp
    · obtain rfl := List.mem_singleton.mp hp
      rfl
    · obtain ⟨name, -, rfl⟩ := List.mem_map.mp hp
      rfl
  rw [routeProblems_eq, List.filter_append, hrepeat, hown, List.nil_append]

theorem filter_about_problems (c : Config) (index : Nat) :
    (about index (problems c)).filter (!·.isDuplicate) =
      (c.routes[index]?.map (ownProblems index)).getD [] := by
  rw [about_problems]
  cases hs : c.routes[index]? with
  | none => rfl
  | some s =>
    simp only [Option.map_some, Option.getD_some]
    rw [filter_routeProblems, length_earlier hs]

/-- The list of problems is the one report of a configuration. What it says of a route is the same
whatever routes come later; and but for its being a repeated one, whatever routes come earlier. -/
theorem problems_exact (c : Config) :
    (∀ ps, Report c ps ↔ ps = problems c) ∧
    (∀ d index, d.routes.take (index + 1) = c.routes.take (index + 1) →
      about index (problems d) = about index (problems c)) ∧
    ∀ d index, d.routes[index]? = c.routes[index]? →
      (about index (problems d)).filter (!·.isDuplicate) =
        (about index (problems c)).filter (!·.isDuplicate) := by
  refine ⟨fun ps => report_iff, fun d index htake => ?_, fun d index hroute => ?_⟩
  · have hroute : d.routes[index]? = c.routes[index]? := by
      have hget := congrArg (·[index]?) htake
      simpa [List.getElem?_take] using hget
    have hearlier : d.routes.take index = c.routes.take index := by
      have htake' := congrArg (List.take index) htake
      simpa [List.take_take] using htake'
    rw [about_problems, about_problems, hroute, hearlier]
  · rw [filter_about_problems, filter_about_problems, hroute]

/-- Of routes for one path the second is invalid and a repeated one, and the third is repeated and
has rules for a name that is not in the path. -/
example : problems {
      baseUrl := "https://api.example.com"
      logging := { level := "WARN" }
      routes := [
        { path := "/a/<x>" },
        { path := "/a/<x>", methods := .list ["get", "fetch"] },
        { path := "/a/<x>", parameters := {("y", {}), ("x", { default := some "1" })} }] } =
    [.baseUrl "https://api.example.com", .duplicate 1 0 "/a/<x>",
      .invalid 1 "/a/<x>" (.unknownVerb "fetch"), .duplicate 2 0 "/a/<x>",
      .unused 2 "/a/<x>" "y"] := by
  decide +kernel

end PathRoute.Config
