import PathRoute.Proofs.Route.RoundTrip

/-!
# Built paths are answered

Whatever groups are kept or left out when a route builds a URL, the path that results is one of the
paths that the route answers.
-/

namespace PathRoute.Route

open Template

variable {r : Route} {ps : Parameters} {action url : String}

/-- With its own slashes as the base, a route builds what its template is filled to, and the
query. -/
theorem exists_fill_of_build {handler : Option String}
    (h : r.build? handler action ps (.ofList r.slashes) = some url) :
    ∃ cs, r.pattern.template.fill ps = some cs ∧
      url = .ofList cs ++ .ofList (queryText (leftovers r.pattern.template ps)) := by
  obtain ⟨-, cs, hfill, rfl⟩ := build?_eq_some_iff.mp h
  refine ⟨cs, hfill, ?_⟩
  rw [← String.ofList_append, ← List.append_assoc, slashes_append_drop hfill, String.ofList_append]

/-- A URL that a route builds from words is a path and a query, and the route answers every request
for that path by the verb of the action, without a query and with no other verb in its headers. -/
theorem answers_built_path (he : r.enabled = true)
    (ht : r.pattern.template.Unrestricted r.placeholders)
    (hd : ∀ name ∈ r.pattern.required, (r.placeholders.rules name).default = none)
    (hw : ∀ name ∈ r.pattern.template.names, ∀ value,
      ps[name]? = some (some value) → IsWord value.toList)
    (v : Verb) (ha : r.actions.get v = some action)
    (hu : r.build? r.handler action ps (.ofList r.slashes) = some url) :
    ∃ path, url = path ++ .ofList (queryText (leftovers r.pattern.template ps)) ∧
      ∀ q : Request, q.method = v.name → q.path = path → q.query = ∅ →
        q.header? overrideHeader = none →
        ∃ i, (r.tryMatch q).answer = .ok i ∧ i.action = action := by
  obtain ⟨cs, hfill, rfl⟩ := exists_fill_of_build hu
  refine ⟨.ofList cs, rfl, fun q hmethod hpath hquery hheader => ?_⟩
  obtain ⟨vs, hvs, -⟩ : ∃ vs, r.pattern.template.Reads r.placeholders cs vs ∧ _ :=
    exists_reads_of_fill_of_words hfill hw
  have hverb : r.actions.forText? (q.verb r.actions) = some action := by
    have hoverride : q.query[overrideQuery]? = none := by
      rw [hquery]
      exact Std.ExtTreeMap.getElem?_empty
    rw [Request.forText?_verb_of_method hmethod hheader hoverride, ha]
  rw [answer_tryMatch]
  exact exists_answer he ht hd hverb (by rwa [hpath, String.toList_ofList])

/-- So for a value in a group, and another one that becomes the query. -/
theorem answers_built_articles : ∃ r, ofSettings "/articles/<id>[/<slug>]" [] = .ok r ∧
    r.build? r.handler "read" {("id", some "7"), ("page", some "2"), ("slug", some "a")} "/" =
      some "/articles/7/a?page=2" ∧
    ∃ path, "/articles/7/a?page=2" = path ++ .ofList (queryText (leftovers r.pattern.template
        {("id", some "7"), ("page", some "2"), ("slug", some "a")})) ∧
      ∀ q : Request, q.method = "GET" → q.path = path → q.query = ∅ →
        q.header? overrideHeader = none →
        ∃ i, (r.tryMatch q).answer = .ok i ∧ i.action = "read" := by
  obtain ⟨r, hr, hpath, hactions, hrules, henabled, ht⟩ := exists_articles
  let ps : Parameters := {("id", some "7"), ("page", some "2"), ("slug", some "a")}
  have hslashes : "/" = String.ofList r.slashes := by
    rw [slashes, hpath]
    decide +kernel
  have hunrestricted : r.pattern.template.Unrestricted r.placeholders := by
    rw [hrules]
    exact unrestricted_empty _
  have hwords : ∀ name ∈ r.pattern.template.names, ∀ value,
      ps[name]? = some (some value) → IsWord value.toList := by
    rw [ht]
    intro name hname value hvalue
    simp only [names, List.append_nil, List.mem_cons, List.not_mem_nil, or_false] at hname
    rcases hname with rfl | rfl
    · have hid : ps["id"]? = some (some "7") := by decide +kernel
      cases hid.symm.trans hvalue
      exact isWord_singleton (c := '7') (by decide +kernel)
    · have hslug : ps["slug"]? = some (some "a") := by decide +kernel
      cases hslug.symm.trans hvalue
      exact isWord_singleton (c := 'a') (by decide +kernel)
  have hbuild : r.build? r.handler "read" ps "/" = some "/articles/7/a?page=2" := by
    rw [build?_eq_some_iff, ht, hactions]
    refine ⟨⟨rfl, ?_⟩, "/articles/7/a".toList, ?_, ?_⟩ <;> decide +kernel
  have hget : r.actions.get .get = some "read" := by
    rw [hactions]
    rfl
  refine ⟨r, hr, hbuild, answers_built_path henabled hunrestricted ?_ hwords .get hget ?_⟩
  · intro name _
    rw [hrules, Placeholders.rules_empty]
  · rwa [← hslashes]

end PathRoute.Route
