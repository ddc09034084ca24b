import Mathlib.Data.List.Basic
import PathRoute.Cli.Run
import PathRoute.Proofs.Route.Building
import PathRoute.Proofs.Route.Matching
import PathRoute.Proofs.Template.Rendering

/-!
# Queries of built URLs

A URL that a route builds is the base, the path, and a query of the parameters with a value that
neither are the action nor stand for a placeholder. The query is read back as these parameters, and
the path depends on nothing but the placeholders. What one walk over the template did not take is
what a query has to show, since the walk takes values in groups that are left out as well.
-/

namespace PathRoute.Route

open Template

variable {r : Route} {handler : Option String} {action base url : String} {ps : Parameters}

/-- The parameters with a value that neither are the action nor stand for a placeholder. -/
def unnamed (r : Route) (ps : Parameters) : Entries :=
  ps.filterMap fun name value => if name = actionKey ∨ name ∈ r.pattern.names then none else value

/-- What a walk over the template gives, without the slashes at its front. -/
def renderedPath (r : Route) (ps : Parameters) : String :=
  .ofList ((r.pattern.template.render ps).text.drop r.pattern.template.leadingSlashes)

/-- The parameters with a value that neither are the action nor were taken by the walk, in the order
of their names. -/
def untaken (r : Route) (ps : Parameters) : List (String × String) :=
  ps.toList.filterMap fun (name, value) =>
    if name = actionKey ∨ name ∈ (r.pattern.template.render ps).taken then none
    else value.map (name, ·)

theorem leftovers_eq_untaken (r : Route) (ps : Parameters) :
    leftovers r.pattern.template ps = r.untaken ps := by
  refine List.filterMap_congr fun entry hmem => ?_
  obtain ⟨name, value⟩ := entry
  rw [Std.ExtTreeMap.mem_toList_iff_getElem?_eq_some] at hmem
  -- a placeholder without a value is not taken, but has nothing to show either
  cases value with
  | none => simp
  | some text => simp [mem_taken_iff, hmem]

theorem toList_unnamed (r : Route) (ps : Parameters) :
    (r.unnamed ps).toList = leftovers r.pattern.template ps := by
  rw [unnamed, Std.ExtTreeMap.toList_filterMap, leftovers]
  refine List.filterMap_congr fun entry _ => ?_
  obtain ⟨name, value⟩ := entry
  by_cases hname : name = actionKey ∨ name ∈ r.pattern.template.names <;>
    simp [r.compiled.names_eq, hname]

theorem ofList_leftovers (r : Route) (ps : Parameters) :
    (Std.ExtTreeMap.ofList (leftovers r.pattern.template ps) : Entries) = r.unnamed ps := by
  refine Std.ExtTreeMap.ext_getElem? fun name => ?_
  rw [getElem?_ofList_leftovers, unnamed, Std.ExtTreeMap.getElem?_filterMap',
    r.compiled.names_eq]
  split <;> cases ps[name]? <;> rfl

/-- A built URL is the base, the path of the walk, and the query. -/
theorem eq_of_build (h : r.build? handler action ps base = some url) :
    url = base ++ r.renderedPath ps ++ .ofList (queryText (leftovers r.pattern.template ps)) := by
  obtain ⟨-, cs, hfill, rfl⟩ := build?_eq_some_iff.mp h
  rw [fill_eq_render] at hfill
  split at hfill
  · cases hfill
    rw [renderedPath, String.append_assoc, ← String.ofList_append]
  · cases hfill

/-- Headers change neither the path nor the query of a request. -/
theorem exists_readRequest {headers : List String} {pairs : List (String × String)}
    (h : headers.mapM Cli.readHeader = .ok pairs) (target method : String)
    (accept : Option String) : ∃ q, Cli.readRequest target method headers accept = .ok q ∧
      q.path = (Request.ofTarget target method).path ∧
      q.query = (Request.ofTarget target method).query := by
  let withHeaders (q : Request) : Request :=
    pairs.foldl (fun q pair => q.withHeader pair.1 pair.2) q
  have hkeeps (q : Request) : (withHeaders q).path = q.path ∧ (withHeaders q).query = q.query := by
    clear h
    induction pairs generalizing q with
    | nil => exact ⟨rfl, rfl⟩
    | cons pair pairs ih => exact ih (q.withHeader pair.1 pair.2)
  obtain ⟨hpath, hquery⟩ := hkeeps (Request.ofTarget target method)
  simp only [Cli.readRequest, h]
  cases accept with
  | none => exact ⟨_, rfl, hpath, hquery⟩
  | some value => exact ⟨_, rfl, hpath, hquery⟩

/-- A URL that a route builds is the base, a path that depends on the placeholders only, and a query
of the other parameters with a value, if there are some. These are read back from the query, which
has none of the signs that begin or end one, and so a request for the URL has them again. -/
theorem query_of_build (h : r.build? handler action ps base = some url) :
    ((r.unnamed ps = ∅ ∧ url = base ++ r.renderedPath ps) ∨
      (r.unnamed ps ≠ ∅ ∧ ∃ text, url = base ++ r.renderedPath ps ++ "?" ++ text ∧
        Form.decode text = r.untaken ps ∧ Form.parse text = r.unnamed ps ∧
        '?' ∉ text.toList ∧ '#' ∉ text.toList)) ∧
    (∀ qs : Parameters, (∀ name ∈ r.pattern.names, (qs[name]?).join = (ps[name]?).join) →
      (r.build? handler action qs base).isSome = true ∧ r.renderedPath qs = r.renderedPath ps) ∧
    ('?' ∉ base.toList → '?' ∉ (r.renderedPath ps).toList → ∀ method headers accept pairs,
      headers.mapM Cli.readHeader = .ok pairs →
        ∃ q, Cli.readRequest url method headers accept = .ok q ∧
          q.path = base ++ r.renderedPath ps ∧ q.query = r.unnamed ps) := by
  obtain ⟨hguard, cs, hfill, -⟩ := build?_eq_some_iff.mp h
  obtain rfl := eq_of_build h
  refine ⟨?_, fun qs hqs => ?_, fun hbase hpath method headers accept pairs hpairs => ?_⟩
  · by_cases hnone : r.unnamed ps = ∅
    · refine .inl ⟨hnone, ?_⟩
      rw [← toList_unnamed, hnone]
      exact String.append_empty
    · have hpairs : leftovers r.pattern.template ps ≠ [] := by
        intro hnil
        rw [← ofList_leftovers, hnil] at hnone
        exact hnone rfl
      refine .inr
        ⟨hnone, .ofList (Form.encode (leftovers r.pattern.template ps)), ?_, ?_, ?_, ?_⟩
      · rw [ofList_queryText hpairs, ← String.append_assoc]
      · rw [Form.decode_encode, leftovers_eq_untaken]
      · rw [Form.parse_encode, ofList_leftovers]
      · rw [String.toList_ofList]
        exact Form.not_mem_encode _
  · rw [r.compiled.names_eq] at hqs
    have hsame : r.pattern.template.render qs = r.pattern.template.render ps := render_congr hqs
    have hbuild : ∃ url, r.build? handler action qs base = some url :=
      ⟨_, build?_eq_some_iff.mpr
        ⟨hguard, cs, by rw [fill_eq_render, hsame, ← fill_eq_render, hfill], rfl⟩⟩
    exact ⟨Option.isSome_iff_exists.mpr hbuild, by rw [renderedPath, hsame, renderedPath]⟩
  · have hmark : '?' ∉ base.toList ++ (r.renderedPath ps).toList := by simp [hbase, hpath]
    have htarget : Request.ofTarget (.ofList (base.toList ++ (r.renderedPath ps).toList ++
        queryText (leftovers r.pattern.template ps))) method = _ :=
      ofTarget_of_leftovers hmark method
    rw [String.ofList_append, String.ofList_append, String.ofList_toList, String.ofList_toList,
      ofList_leftovers] at htarget
    obtain ⟨q, hq, hqpath, hqquery⟩ := exists_readRequest hpairs _ method accept
    rw [htarget] at hqpath hqquery
    exact ⟨q, hq, hqpath, hqquery⟩

/-- So for an empty name, letters beyond ASCII, and signs that are escaped. -/
theorem query_of_build_articles : ∃ r, ofSettings "/articles/<id>[/<slug>]" [] = .ok r ∧
    r.build? r.handler "read"
      {("", some ""), ("id", some "7"), ("ö", some "a b?#&="), ("slug", none)} "/v1/" =
        some "/v1/articles/7?=&%C3%B6=a+b%3F%23%26%3D" ∧
    ∃ q, Cli.readRequest "/v1/articles/7?=&%C3%B6=a+b%3F%23%26%3D" "GET" ["Accept: text/xml"] none =
      .ok q ∧ q.query = {("", ""), ("ö", "a b?#&=")} := by
  obtain ⟨r, hr, -, hactions, -, -, ht⟩ := exists_articles
  let ps : Parameters := {("", some ""), ("id", some "7"), ("ö", some "a b?#&="), ("slug", none)}
  have hbuild : r.build? r.handler "read" ps "/v1/" =
      some "/v1/articles/7?=&%C3%B6=a+b%3F%23%26%3D" := by
    rw [build?_eq_some_iff, ht, hactions]
    refine ⟨⟨rfl, ?_⟩, "/articles/7".toList, ?_, ?_⟩ <;> decide +kernel
  have hpath : '?' ∉ (r.renderedPath ps).toList := by
    rw [renderedPath, ht]
    decide +kernel
  have hunnamed : r.unnamed ps = {("", ""), ("ö", "a b?#&=")} := by
    rw [unnamed, r.compiled.names_eq, ht]
    decide +kernel
  obtain ⟨-, -, hread⟩ := query_of_build hbuild
  obtain ⟨q, hq, -, hquery⟩ :=
    hread (by decide +kernel) hpath "GET" ["Accept: text/xml"] none [("Accept", "text/xml")]
      (by decide +kernel)
  exact ⟨r, hr, hbuild, q, hq, hquery.trans hunnamed⟩

end PathRoute.Route
