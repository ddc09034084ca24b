import PathRoute.Proofs.Route.Answering

/-!
# What the query cannot change

Requests that differ in their queries alone are compared. A query may choose another verb, but only
one that has an action: so it never keeps a request from being answered. What it says under the name
of a placeholder or of the action is lost, and nothing else of an answer depends on it.
-/

namespace PathRoute

namespace Request

variable {q : Request} {t : Actions} {m : Entries}

/-- The request with another query. -/
def withQuery (q : Request) (m : Entries) : Request := { q with query := m }

/-- Without a verb in its query, a request that is supported is so with any query. -/
theorem isSome_forText?_verb_withQuery (hquery : q.query[overrideQuery]? = none)
    (h : (t.forText? (q.verb t)).isSome = true) :
    (t.forText? ((q.withQuery m).verb t)).isSome = true := by
  have hnone : q.queryVerb? t = none := by simp [queryVerb?, hquery]
  rw [verb, hnone] at h
  have hheader : (q.withQuery m).headerVerb? = q.headerVerb? := rfl
  rw [verb, hheader]
  cases hsame : q.headerVerb? with
  | some verb => simpa [hsame] using h
  | none =>
    -- a verb from the query has an action, and without one it is the same method again
    cases hother : (q.withQuery m).queryVerb? t with
    | some verb => simpa using (Option.filter_eq_some_iff.mp hother).2
    | none => simpa [hsame, withQuery] using h

end Request

namespace Route

variable {r : Route} {q : Request} {i j : Invocation} {m m' : Entries}

/-- The invocations are alike in all that a query has no say in. -/
structure Undisturbed (r : Route) (i j : Invocation) : Prop where
  handler : i.handler = j.handler
  format : i.format = j.format
  post : i.post = j.post
  files : i.files = j.files
  secured : i.secured = j.secured
  named : ∀ name ∈ r.pattern.names, i.parameters[name]? = j.parameters[name]?

theorem exists_answer_withQuery (hquery : q.query[overrideQuery]? = none)
    (hi : r.answer q = .ok i) : ∃ j, r.answer (q.withQuery m) = .ok j := by
  rcases answer_cases r q with ⟨hnone, -⟩ | ⟨reason, -, herror⟩
  · obtain ⟨henabled, hpath, hverb, hrequired⟩ := objections_eq_nil_iff.mp hnone
    have hother : r.objections (q.withQuery m) = [] := objections_eq_nil_iff.mpr
      ⟨henabled, hpath, Request.isSome_forText?_verb_withQuery hquery hverb, hrequired⟩
    rcases answer_cases r (q.withQuery m) with ⟨-, hj⟩ | ⟨reason, hhead, -⟩
    · exact hj
    · simp [hother] at hhead
  · cases hi.symm.trans herror

theorem undisturbed_of_answer (hi : r.answer (q.withQuery m) = .ok i)
    (hj : r.answer (q.withQuery m') = .ok j) : r.Undisturbed i j := by
  have hnamed : ∀ name ∈ r.pattern.names, i.parameters[name]? = j.parameters[name]? := by
    intro name hn
    rw [getElem?_of_answer_of_mem hi hn, getElem?_of_answer_of_mem hj hn]
    rfl
  rw [eq_of_answer hi, eq_of_answer hj]
  exact ⟨rfl, rfl, rfl, rfl, rfl, hnamed⟩

/-- With the same action, the parameter of the action is the same, too. -/
theorem getElem?_actionKey_of_answer (hi : r.answer (q.withQuery m) = .ok i)
    (hj : r.answer (q.withQuery m') = .ok j) (haction : i.action = j.action) :
    i.parameters[actionKey]? = j.parameters[actionKey]? := by
  by_cases hn : actionKey ∈ r.pattern.names
  · exact (undisturbed_of_answer hi hj).named _ hn
  · rw [getElem?_of_answer_of_not_mem hi hn, getElem?_of_answer_of_not_mem hj hn, haction,
      if_pos rfl, if_pos rfl]

/-- A query cannot disturb a match. If a request without a verb in its query is answered, it is
answered with any other query; and two answers to requests that differ in their queries alone are
alike but for the verb, the action and the parameters that are named by no placeholder. With the
same action, the parameter of the action is no exception. -/
theorem query_cannot_disturb (r : Route) (q : Request) (m m' : Entries) :
    (m[overrideQuery]? = none → (∃ i, (r.tryMatch (q.withQuery m)).answer = .ok i) →
      ∃ j, (r.tryMatch (q.withQuery m')).answer = .ok j) ∧
    ∀ i j, (r.tryMatch (q.withQuery m)).answer = .ok i →
      (r.tryMatch (q.withQuery m')).answer = .ok j →
      r.Undisturbed i j ∧
      (i.action = j.action → ∀ name, i.parameters[name]? ≠ j.parameters[name]? →
        name ∉ r.pattern.names ∧ name ≠ actionKey) := by
  simp only [answer_tryMatch]
  refine ⟨?_, ?_⟩
  · rintro hquery ⟨i, hi⟩
    exact exists_answer_withQuery (q := q.withQuery m) hquery hi
  · intro i j hi hj
    have hsame := undisturbed_of_answer hi hj
    refine ⟨hsame, fun haction name hne => ⟨fun hn => hne (hsame.named name hn), ?_⟩⟩
    rintro rfl
    exact hne (getElem?_actionKey_of_answer hi hj haction)

/-- So for a query with an unknown verb, and with values for a placeholder and the action. -/
theorem query_cannot_disturb_drop : ∃ r, ofSettings "/<id>" [] = .ok r ∧
    let q : Request := { method := "GET", path := "/7" }
    ∃ i j, (r.tryMatch (q.withQuery {("page", "3")})).answer = .ok i ∧
      (r.tryMatch (q.withQuery
        {("__apiRouteMethod", "fetch"), ("action", "drop"), ("id", "9")})).answer = .ok j ∧
      r.Undisturbed i j ∧ i.parameters[actionKey]? = j.parameters[actionKey]? := by
  let q : Request := { method := "GET", path := "/7" }
  let m : Entries := {("page", "3")}
  let m' : Entries := {("__apiRouteMethod", "fetch"), ("action", "drop"), ("id", "9")}
  have hmatch : ∃ r, ofSettings "/<id>" [] = .ok r ∧
      (∃ i, (r.tryMatch (q.withQuery m)).answer = .ok i ∧ i.action = "read") ∧
      ∃ j, (r.tryMatch (q.withQuery m')).answer = .ok j ∧ j.action = "read" := by
    decide +kernel
  obtain ⟨r, hr, ⟨i, hi, hread⟩, j, hj, hread'⟩ := hmatch
  obtain ⟨-, halike⟩ := query_cannot_disturb r q m m'
  obtain ⟨hsame, hnames⟩ := halike i j hi hj
  refine ⟨r, hr, i, j, hi, hj, hsame, ?_⟩
  by_contra hne
  exact (hnames (hread.trans hread'.symm) actionKey hne).2 rfl

end Route

end PathRoute
