import PathRoute.Proofs.Route.Matching
import PathRoute.Proofs.Text.Trimming

/-!
# Verbs of answered requests

The verb that a request is taken for is written in capitals, wherever it comes from. A verb from a
header or from the query has been trimmed as well. The method of the request itself has not, but the
action is looked up as if it had: so a method with blank characters around it is answered, and
reported with them.
-/

namespace PathRoute

namespace Request

variable {r : Request} {t : Actions} {verb : String}

/-- A header or the query names another verb than the method. -/
def Overridden (r : Request) (t : Actions) : Prop := (r.headerVerb? <|> r.queryVerb? t).isSome

theorem exists_of_headerVerb? (h : r.headerVerb? = some verb) :
    ∃ text, verb = (trim text).toUpper := by
  obtain ⟨text, htext, rfl⟩ := Option.map_eq_some_iff.mp h
  obtain ⟨raw, -, rfl⟩ := Option.map_eq_some_iff.mp (Option.filter_eq_some_iff.mp htext).1
  exact ⟨raw, rfl⟩

theorem exists_of_queryVerb? (h : r.queryVerb? t = some verb) :
    ∃ text, verb = (trim text).toUpper := by
  obtain ⟨raw, -, rfl⟩ := Option.map_eq_some_iff.mp (Option.filter_eq_some_iff.mp h).1
  exact ⟨raw, rfl⟩

theorem verb_cases (r : Request) (t : Actions) :
    (r.Overridden t ∧ ∃ text, r.verb t = (trim text).toUpper) ∨
      (¬r.Overridden t ∧ r.verb t = r.method.toUpper) := by
  rw [Overridden, verb]
  cases hheader : r.headerVerb? with
  | some verb => exact .inl ⟨rfl, exists_of_headerVerb? hheader⟩
  | none =>
    cases hquery : r.queryVerb? t with
    | some verb => exact .inl ⟨rfl, exists_of_queryVerb? hquery⟩
    | none => exact .inr ⟨Bool.false_ne_true, rfl⟩

theorem toUpper_verb (r : Request) (t : Actions) : (r.verb t).toUpper = r.verb t := by
  rcases r.verb_cases t with ⟨-, text, h⟩ | ⟨-, h⟩
  · rw [h, toUpper_toUpper]
  · rw [h, toUpper_toUpper]

/-- The verb of a request is without blank characters at its ends, unless it is a method with such
ones. -/
theorem trim_verb_eq_self_iff (r : Request) (t : Actions) :
    trim (r.verb t) = r.verb t ↔ r.Overridden t ∨ trim r.method = r.method := by
  rcases r.verb_cases t with ⟨hover, text, h⟩ | ⟨hnot, h⟩
  · rw [h, trim_toUpper, trim_trim]
    simp [hover]
  · rw [h, trim_toUpper, eq_comm, toUpper_eq_toUpper_trim_iff]
    simp [hnot]

end Request

/-- A text in capitals is a verb if it is the verb's name but for blank characters at its ends. -/
theorem Verb.ofText?_of_capitals {text : String} {v : Verb} (h : text.toUpper = text) :
    ofText? text = some v ↔ trim text = v.name := by
  rw [ofText?_eq_some_iff, ← trim_toUpper, h]

namespace Route

variable {r : Route} {q : Request} {i : Invocation}

/-- What is answered is one of the verbs, by the action that the route has for it. It is reported by
its name, except where the method of the request decides and has blank characters at its ends. -/
theorem exists_verb_of_match (hi : (r.tryMatch q).answer = .ok i) :
    ∃ v : Verb, r.actions.get v = some i.action ∧ trim i.method = v.name ∧
      (i.method = v.name ↔ q.Overridden r.actions ∨ trim q.method = q.method) := by
  rw [answer_tryMatch] at hi
  obtain ⟨_, -, haction, -, -⟩ := exists_of_answer hi
  obtain ⟨v, hv, hget⟩ := Actions.forText?_eq_some_iff.mp haction
  rw [Verb.ofText?_of_capitals (q.toUpper_verb r.actions)] at hv
  have hmethod : i.method = q.verb r.actions := congrArg Invocation.method (eq_of_answer hi)
  rw [hmethod]
  refine ⟨v, hget, hv, ?_⟩
  rw [← q.trim_verb_eq_self_iff r.actions, ← hv, eq_comm]

/-- So where a header with blank characters and small letters overrides such a method. -/
theorem exists_verb_of_match_delete : ∃ r i, ofSettings "/<id>" [] = .ok r ∧
    (r.tryMatch
      { method := " get", path := "/7",
        headers := {("x-http-method-override", "\tdelete ")} }).answer = .ok i ∧
    ∃ v : Verb, r.actions.get v = some i.action ∧ i.method = v.name := by
  let q : Request :=
    { method := " get", path := "/7", headers := {("x-http-method-override", "\tdelete ")} }
  have hmatch : ∃ r, ofSettings "/<id>" [] = .ok r ∧
      (q.headerVerb? <|> q.queryVerb? r.actions).isSome ∧
      ∃ i, (r.tryMatch q).answer = .ok i ∧ i.action = "delete" := by
    decide +kernel
  obtain ⟨r, hr, hover, i, hi, -⟩ := hmatch
  obtain ⟨v, hget, -, hname⟩ := exists_verb_of_match hi
  exact ⟨r, i, hr, hi, v, hget, hname.mpr (.inl hover)⟩

/-- A method with a blank character is answered, but no verb has the name that it is reported by. -/
theorem not_exists_verb_of_blank : ∃ r i, ofSettings "/<id>" [] = .ok r ∧
    (r.tryMatch { method := " get", path := "/7" }).answer = .ok i ∧
    ¬∃ v : Verb, r.actions.get v = some i.action ∧ i.method = v.name := by
  have hmatch : ∃ r, ofSettings "/<id>" [] = .ok r ∧
      ∃ i, (r.tryMatch { method := " get", path := "/7" }).answer = .ok i ∧ i.method = " GET" := by
    decide +kernel
  obtain ⟨r, hr, i, hi, hmethod⟩ := hmatch
  refine ⟨r, i, hr, hi, ?_⟩
  rintro ⟨v, -, hname⟩
  rw [hmethod] at hname
  cases v <;> exact absurd hname (by decide)

end Route

end PathRoute
