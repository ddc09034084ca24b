import PathRoute.Proofs.Route.Answering
import PathRoute.Proofs.Route.Verbs

/-!
# Tunnelled verbs

A verb that a header or the query names in the place of the method is as good as that method: the
request that is sent by this verb itself, and that names no other, is answered in the same way. It
only lacks the parameter that the query entry would have become.
-/

namespace PathRoute

namespace Request

variable {q : Request} {t : Actions} {name : String}

/-- The request sent by the verb that it is taken for, with nothing that overrides it. -/
def direct (q : Request) (t : Actions) : Request :=
  { q with
    method := q.verb t
    headers := q.headers.erase overrideHeader.toLower
    query := q.query.erase overrideQuery }

theorem header?_direct (h : name.toLower ≠ overrideHeader.toLower) :
    (q.direct t).header? name = q.header? name := by
  simp [header?, direct, Std.ExtTreeMap.getElem?_erase, Ne.symm h]

theorem accept_direct : (q.direct t).accept = q.accept := by
  rw [accept, accept, header?_direct (by decide +kernel)]

theorem getElem?_query_direct :
    (q.direct t).query[name]? = if name = overrideQuery then none else q.query[name]? := by
  simp only [direct, Std.ExtTreeMap.getElem?_erase, Std.compare_eq_iff_eq]
  grind

/-- A verb that a request has been taken for once, it is taken for again. -/
theorem verb_direct : (q.direct t).verb t = q.verb t := by
  have hheader : (q.direct t).header? overrideHeader = none := by simp [header?, direct]
  have hquery : (q.direct t).query[overrideQuery]? = none := by simp [getElem?_query_direct]
  rw [verb_eq_method hheader hquery, direct, toUpper_verb]

end Request

namespace Route

variable {r : Route} {q : Request} {i j : Invocation} {name : String}

/-- The invocation without what a query entry for the verb leaves in it. A placeholder of that name
is not concerned. -/
def untunnelled (r : Route) (i : Invocation) : Invocation :=
  if overrideQuery ∈ r.pattern.names then i
  else { i with parameters := i.parameters.erase overrideQuery }

theorem untunnelled_eq (r : Route) (i : Invocation) :
    r.untunnelled i = { i with parameters := (r.untunnelled i).parameters } := by
  unfold untunnelled
  split <;> rfl

theorem getElem?_untunnelled : (r.untunnelled i).parameters[name]? =
    if name = overrideQuery ∧ name ∉ r.pattern.names then none else i.parameters[name]? := by
  unfold untunnelled
  split
  · grind
  · simp only [Std.ExtTreeMap.getElem?_erase, Std.compare_eq_iff_eq]
    grind

/-- Nothing stands against the direct request that does not stand against the other one. -/
theorem objections_direct (r : Route) (q : Request) :
    r.objections (q.direct r.actions) = r.objections q := by
  rw [objections, objections, Request.verb_direct]
  rfl

theorem eq_untunnelled_of_answer (hi : r.answer q = .ok i)
    (hj : r.answer (q.direct r.actions) = .ok j) : j = r.untunnelled i := by
  have haction : j.action = i.action := by
    have hsame := (answered_of_answer hj).action
    rw [Request.verb_direct, (answered_of_answer hi).action] at hsame
    exact (Option.some.inj hsame).symm
  have hparameters : j.parameters = (r.untunnelled i).parameters := by
    refine Std.ExtTreeMap.ext_getElem? fun name => ?_
    rw [getElem?_untunnelled]
    by_cases hn : name ∈ r.pattern.names
    · rw [getElem?_of_answer_of_mem hj hn, getElem?_of_answer_of_mem hi hn]
      simp [hn, Request.direct]
    · rw [getElem?_of_answer_of_not_mem hj hn, getElem?_of_answer_of_not_mem hi hn,
        Request.getElem?_query_direct, haction]
      have hne : actionKey ≠ overrideQuery := by decide
      grind
  have hfields : j = { i with parameters := j.parameters } := by
    have hj' := eq_of_answer hj
    rw [haction, Request.verb_direct, Request.accept_direct] at hj'
    rw [hj', eq_of_answer hi]
    rfl
  rw [hfields, hparameters, ← untunnelled_eq]

theorem answer_direct (r : Route) (q : Request) :
    r.answer (q.direct r.actions) = (r.answer q).map r.untunnelled := by
  have hdirect := answer_cases r (q.direct r.actions)
  rw [objections_direct] at hdirect
  rcases answer_cases r q with ⟨hnone, i, hi⟩ | ⟨reason, hhead, herror⟩
  · rcases hdirect with ⟨-, j, hj⟩ | ⟨reason, hhead, -⟩
    · rw [hj, hi, eq_untunnelled_of_answer hi hj]
      rfl
    · simp [hnone] at hhead
  · rcases hdirect with ⟨hnone, -⟩ | ⟨other, hother, hj⟩
    · simp [hnone] at hhead
    · obtain rfl := Option.some.inj (hhead.symm.trans hother)
      rw [hj, herror]
      rfl

/-- A request that names another verb in a header or in the query is matched as if it had been sent
by that verb, with the same invocation or for the same reason not, and with the same reports. Only
the query entry is no longer among the parameters. -/
theorem tryMatch_direct (r : Route) (q : Request) :
    (r.tryMatch (q.direct r.actions)).answer = (r.tryMatch q).answer.map r.untunnelled ∧
    (r.tryMatch (q.direct r.actions)).counts = (r.tryMatch q).counts ∧
    (r.tryMatch (q.direct r.actions)).notices = (r.tryMatch q).notices ∧
    (r.tryMatch (q.direct r.actions)).events = (r.tryMatch q).events := by
  refine ⟨by simp only [answer_tryMatch, answer_direct], ?_⟩
  simp only [tryMatch, answer_direct]
  cases r.answer q with
  | error reason => exact ⟨rfl, rfl, rfl⟩
  | ok i =>
    rw [Except.map, untunnelled_eq]
    refine ⟨rfl, ?_, rfl⟩
    simp only [MatchReport.notices, List.map_map]
    rfl

/-- A verb in the query goes before the method, and stays behind as a parameter. -/
example : ∃ r, ofSettings "/<id>" [] = .ok r ∧
    ∃ i, r.answer { method := "POST", path := "/7", query := {("__apiRouteMethod", " put ")} } =
        .ok i ∧
      i.method = "PUT" ∧ i.parameter? "__apiRouteMethod" = some " put " ∧
      (r.untunnelled i).parameter? "__apiRouteMethod" = none := by
  decide +kernel

end Route

end PathRoute
