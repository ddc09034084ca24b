import Mathlib.Data.Option.Basic
import PathRoute.Proofs.Actions
import PathRoute.Proofs.Form
import PathRoute.Proofs.Template.Filling
import PathRoute.Request
import PathRoute.Route.Build

/-!
# Built URLs

When a route builds a URL, and of what; and how the path and the query of the URL are found again.

What a route needs for a URL is its own handler, one of its actions, and a value for each
placeholder outside of the optional groups. What is given or missing for the groups decides which
of them are left out, and never whether there is a URL.
-/

namespace PathRoute.Route

variable {t : Template} {ps : Parameters} {name value : String}

theorem build?_eq_some_iff {r : Route} {handler : Option String} {action base url : String} :
    r.build? handler action ps base = some url ↔
      (r.handler = handler ∧ r.actions.contains action = true) ∧
        ∃ cs, r.pattern.template.fill ps = some cs ∧
          url = base ++ .ofList (cs.drop r.pattern.template.leadingSlashes ++
            queryText (leftovers r.pattern.template ps)) := by
  simp only [build?, Option.bind_eq_bind, Option.bind_eq_some_iff, Option.guard_eq_some',
    Option.pure_def, Option.some.injEq, eq_comm (a := url)]
  constructor
  · rintro ⟨-, hguard, h⟩
    exact ⟨hguard, h⟩
  · rintro ⟨hguard, h⟩
    exact ⟨(), hguard, h⟩

/-- A route builds a URL for its own handler and for its actions, if its template can be filled. -/
theorem isSome_build?_iff {r : Route} {handler : Option String} {action base : String} :
    (r.build? handler action ps base).isSome = true ↔
      (r.handler = handler ∧ r.actions.contains action = true) ∧
        (r.pattern.template.fill ps).isSome = true := by
  simp only [Option.isSome_iff_exists, build?_eq_some_iff]
  constructor
  · rintro ⟨url, hguard, cs, hcs, -⟩
    exact ⟨hguard, cs, hcs⟩
  · rintro ⟨hguard, cs, hcs⟩
    exact ⟨_, hguard, cs, hcs, rfl⟩

/-! ## The query -/

theorem mem_leftovers_iff :
    (name, value) ∈ leftovers t ps ↔
      ps[name]? = some (some value) ∧ name ≠ actionKey ∧ name ∉ t.names := by
  simp only [leftovers, List.mem_filterMap, Prod.exists]
  constructor
  · rintro ⟨other, v, hmem, h⟩
    rw [Std.ExtTreeMap.mem_toList_iff_getElem?_eq_some] at hmem
    split at h
    · cases h
    · rename_i hnot
      obtain ⟨_, rfl, heq⟩ := Option.map_eq_some_iff.mp h
      cases heq
      exact ⟨hmem, not_or.mp hnot⟩
  · rintro ⟨hmem, hnot⟩
    refine ⟨name, some value, Std.ExtTreeMap.mem_toList_iff_getElem?_eq_some.mpr hmem, ?_⟩
    rw [if_neg (not_or.mpr hnot)]
    rfl

theorem leftovers_pairwise :
    (leftovers t ps).Pairwise fun a b => ¬compare a.1 b.1 = .eq := by
  refine List.Pairwise.filterMap _ ?_ ps.distinct_keys_toList
  rintro ⟨n, v⟩ ⟨n', v'⟩ hne b hb b' hb'
  dsimp only at hb hb'
  split at hb
  · cases hb
  split at hb'
  · cases hb'
  obtain ⟨_, -, rfl⟩ := Option.map_eq_some_iff.mp hb
  obtain ⟨_, -, rfl⟩ := Option.map_eq_some_iff.mp hb'
  exact hne

/-- The entries of a query are the parameters with a value that the template does not name. -/
theorem getElem?_ofList_leftovers (name : String) :
    (Std.ExtTreeMap.ofList (leftovers t ps) : Entries)[name]? =
      if name = actionKey ∨ name ∈ t.names then none else (ps[name]?).join := by
  have hnone : (∀ value, (name, value) ∉ leftovers t ps) →
      (Std.ExtTreeMap.ofList (leftovers t ps) : Entries)[name]? = none := by
    intro h
    apply Std.ExtTreeMap.getElem?_ofList_of_contains_eq_false
    rw [← Bool.not_eq_true, List.contains_iff_mem, List.mem_map]
    rintro ⟨⟨_, value⟩, hmem, rfl⟩
    exact h value hmem
  split
  · rename_i hname
    refine hnone fun value hmem => ?_
    obtain ⟨-, hnot⟩ := mem_leftovers_iff.mp hmem
    exact hname.elim hnot.1 hnot.2
  · rename_i hname
    cases hvalue : (ps[name]?).join with
    | none =>
      refine hnone fun value hmem => ?_
      obtain ⟨hps, -⟩ := mem_leftovers_iff.mp hmem
      rw [hps] at hvalue
      cases hvalue
    | some value =>
      refine Std.ExtTreeMap.getElem?_ofList_of_mem Std.compare_self leftovers_pairwise ?_
      exact mem_leftovers_iff.mpr ⟨Option.join_eq_some_iff.mp hvalue, not_or.mp hname⟩

theorem ofList_queryText {pairs : List (String × String)} (h : pairs ≠ []) :
    String.ofList (queryText pairs) = "?" ++ .ofList (Form.encode pairs) := by
  have hmark : "?" = String.ofList ['?'] := rfl
  rw [queryText, if_neg (by rwa [List.isEmpty_iff]), hmark, ← String.ofList_append]
  rfl

/-- The path and the query of a built URL are found again in a request for it. -/
theorem ofTarget_of_leftovers {path : List Char} (h : '?' ∉ path) (method : String) :
    Request.ofTarget (.ofList (path ++ queryText (leftovers t ps))) method =
      { method, path := .ofList path, query := .ofList (leftovers t ps) } := by
  have hall : ∀ c ∈ path, (c != '?') = true := by
    intro c hc
    rw [bne_iff_ne]
    rintro rfl
    exact h hc
  have hpath : (path ++ queryText (leftovers t ps)).takeWhile (· != '?') = path := by
    rw [List.takeWhile_append_of_pos hall, queryText]
    split <;> simp
  have hquery : ((path ++ queryText (leftovers t ps)).dropWhile (· != '?')).drop 1 =
      Form.encode (leftovers t ps) := by
    rw [List.dropWhile_append_of_pos hall, queryText]
    split
    · rename_i hempty
      rw [List.isEmpty_iff.mp hempty]
      rfl
    · simp
  rw [Request.ofTarget, String.toList_ofList, hpath, hquery, Form.parse_encode]

/-! ## Which URLs can be built -/

variable {r : Route} {handler : Option String} {action base : String}

theorem isSome_build?_iff_required :
    (r.build? handler action ps base).isSome = true ↔
      (r.handler = handler ∧ r.actions.contains action = true) ∧
        ∀ name ∈ r.pattern.required, ((ps[name]?).join).isSome = true := by
  rw [isSome_build?_iff, Template.isSome_fill_iff, r.compiled.required_eq]

/-- A URL is built if and only if handler and action are those of the route and every required
parameter has a value. So parameters that agree on which of the required ones have a value can
replace each other, whatever they have for the placeholders of optional groups. -/
theorem build_succeeds_iff (r : Route) (handler : Option String) (action : String)
    (ps : Parameters) (base : String) :
    ((r.build? handler action ps base).isSome = true ↔ r.handler = handler ∧
      (∃ v ∈ r.actions.verbs, r.actions.get v = some action) ∧
      ∀ name ∈ r.pattern.required, ∃ value, ps[name]? = some (some value)) ∧
    ∀ qs : Parameters, (∀ name ∈ r.pattern.required,
        ((qs[name]?).join).isSome = ((ps[name]?).join).isSome) →
      (r.build? handler action qs base).isSome = (r.build? handler action ps base).isSome := by
  constructor
  · rw [isSome_build?_iff_required, Actions.contains_iff_exists_mem, and_assoc]
    simp only [Option.isSome_iff_exists, Option.join_eq_some_iff]
  · intro qs hqs
    rw [Bool.eq_iff_iff, isSome_build?_iff_required, isSome_build?_iff_required]
    refine and_congr_right fun _ => forall₂_congr fun name hname => ?_
    rw [hqs name hname]

end PathRoute.Route
