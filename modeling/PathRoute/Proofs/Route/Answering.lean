import PathRoute.Proofs.Route.Building
import PathRoute.Proofs.Route.Matching
import PathRoute.Proofs.Template.Filling

/-!
# What a match answers

A request is put through one condition after the other, and then the query is written over by what
the path has. Here the same is said without an order of writing: each placeholder has the text that
its own group captured, or its default, or nothing, and every other name has what the query says.
From this follow where the action is delivered, and that every answer can be built again.
-/

namespace PathRoute

namespace Pattern

/-- The number of the group that captures for a placeholder. -/
def groupOf (p : Pattern) (name : String) : Nat := p.captureOrder.idxOf (some name) + 1

/-- The text that the group of a placeholder captures in a path. An empty one counts as none. -/
def captured? (p : Pattern) (path name : String) : Option String := do
  let texts ← p.captures? path
  ((texts[p.groupOf name]?).join).filter (· ≠ "")

theorem ne_empty_of_captured? {p : Pattern} {path name text : String}
    (h : p.captured? path name = some text) : text ≠ "" := by
  obtain ⟨texts, -, htext⟩ := Option.bind_eq_some_iff.mp h
  simpa using (Option.filter_eq_some_iff.mp htext).2

end Pattern

namespace Route

open Template

variable {r : Route} {q : Request} {i : Invocation} {texts : List (Option String)}
  {bs : List (Option String × Option String)} {name path : String} {text : Option String}

/-! ## Groups and names -/

/-- In a list of names and gaps without a repeated name, the place of a name is where it stands. -/
theorem getElem?_idxOf_of_mem_zip {os : List (Option String)} (hn : (os.filterMap id).Nodup)
    (hm : (some name, text) ∈ os.zip texts) : texts[os.idxOf (some name)]? = some text := by
  induction os generalizing texts with
  | nil => simp at hm
  | cons o os ih =>
    cases texts with
    | nil => simp at hm
    | cons t texts =>
      rw [List.zip_cons_cons, List.mem_cons] at hm
      rcases hm with heq | hm
      · cases heq
        simp
      · have hmem : name ∈ os.filterMap id := by
          simpa using (List.of_mem_zip hm).1
        cases o with
        | none => simpa [List.idxOf_cons] using ih hn hm
        | some other =>
          obtain ⟨hnew, hn⟩ := List.nodup_cons.mp hn
          have hne : other ≠ name := by
            rintro rfl
            exact hnew hmem
          simpa [List.idxOf_cons, hne] using ih hn hm

/-- As many texts are captured as the template has groups, so every placeholder is bound. -/
theorem names_of_captures (hc : r.pattern.captures? path = some texts) :
    (bindings r.pattern texts).filterMap Prod.fst = r.pattern.names := by
  obtain ⟨_, _, m, -, -, htexts⟩ := Pattern.exists_matches_of_captures? hc
  refine filterMap_fst_bindings htexts ?_
  rw [← r.compiled.groupCount_eq]
  simp [Regex.Marks.texts]

/-- What a placeholder is bound to is what its group captured. -/
theorem captured?_eq (hc : r.pattern.captures? path = some texts)
    (hm : (some name, text) ∈ bindings r.pattern texts) :
    r.pattern.captured? path name = text.filter (· ≠ "") := by
  have hget := getElem?_idxOf_of_mem_zip r.names_nodup hm
  rw [List.getElem?_drop, Nat.add_comm] at hget
  simp [Pattern.captured?, hc, Pattern.groupOf, hget]

/-! ## Refusals -/

/-- The first placeholder in template order that every path must fill and that captured nothing. -/
def missing? (r : Route) (path : String) : Option String :=
  r.pattern.names.find? fun name =>
    r.pattern.required.contains name && (r.pattern.captured? path name).isNone

/-- All that stands against an answer, in the order in which it is looked at. -/
def objections (r : Route) (q : Request) : List Refusal :=
  (if r.enabled then [] else [.disabled]) ++
    (if (r.pattern.captures? q.path).isSome then [] else [.pathMismatch]) ++
    (if (r.actions.forText? (q.verb r.actions)).isSome then [] else [.unsupportedMethod]) ++
    ((r.missing? q.path).map Refusal.missingParameter).toList

theorem missing?_eq_none_iff :
    r.missing? path = none ↔
      ∀ name ∈ r.pattern.required, (r.pattern.captured? path name).isSome = true := by
  simp only [missing?, List.find?_eq_none, Bool.and_eq_true, List.contains_iff_mem, not_and,
    Bool.not_eq_true, Option.isNone_eq_false_iff]
  exact ⟨fun h name hr => h name (mem_names_of_required hr) hr, fun h name _ hr => h name hr⟩

theorem objections_eq_nil_iff :
    r.objections q = [] ↔
      r.enabled = true ∧ (r.pattern.captures? q.path).isSome = true ∧
        (r.actions.forText? (q.verb r.actions)).isSome = true ∧
        ∀ name ∈ r.pattern.required, (r.pattern.captured? q.path name).isSome = true := by
  rw [← missing?_eq_none_iff]
  simp [objections, Option.isSome_iff_ne_none]

/-- The first required placeholder for which nothing was captured ends the assignment. -/
theorem assign_eq_error {captured : String → Option String}
    (hc : ∀ name text, (some name, text) ∈ bs → captured name = text.filter (· ≠ ""))
    (h : (bs.filterMap Prod.fst).find? (fun name =>
      r.pattern.required.contains name && (captured name).isNone) = some name)
    (ps : Parameters) : r.assign bs ps = .error (.missingParameter name) := by
  induction bs generalizing ps with
  | nil => simp at h
  | cons b bs ih =>
    have hrest := fun name text hm => hc name text (List.mem_cons_of_mem _ hm)
    obtain ⟨_ | other, text⟩ := b
    · exact ih hrest h ps
    · have hother := hc other text List.mem_cons_self
      have hfind : (other :: bs.filterMap Prod.fst).find? (fun name =>
          r.pattern.required.contains name && (captured name).isNone) = some name := h
      rw [List.find?_cons, hother] at hfind
      rw [assign]
      cases htext : text.filter (· ≠ "") with
      | some value =>
        simp only [htext, Option.isNone_some, Bool.and_false] at hfind
        exact ih hrest hfind _
      | none =>
        cases hr : r.pattern.required.contains other with
        | true =>
          simp only [htext, hr, Option.isNone_none, Bool.and_self, Option.some.injEq] at hfind
          rw [if_pos rfl, hfind]
        | false =>
          simp only [hr, Bool.false_and] at hfind
          rw [if_neg Bool.false_ne_true]
          cases (r.placeholders.rules other).default with
          | some value => exact ih hrest hfind _
          | none => exact ih hrest hfind _

theorem answer_of_disabled (he : r.enabled = false) : r.answer q = .error .disabled := by
  simp [answer, he]
  rfl

theorem answer_of_unsupported (he : r.enabled = true)
    (hc : (r.pattern.captures? q.path).isSome = true)
    (ha : r.actions.forText? (q.verb r.actions) = none) :
    r.answer q = .error .unsupportedMethod := by
  obtain ⟨texts, hc⟩ := Option.isSome_iff_exists.mp hc
  simp [answer, he, hc, ha]
  rfl

theorem answer_of_missing (he : r.enabled = true)
    (hc : (r.pattern.captures? q.path).isSome = true)
    (ha : (r.actions.forText? (q.verb r.actions)).isSome = true)
    (hm : r.missing? q.path = some name) : r.answer q = .error (.missingParameter name) := by
  obtain ⟨texts, hc⟩ := Option.isSome_iff_exists.mp hc
  obtain ⟨action, ha⟩ := Option.isSome_iff_exists.mp ha
  rw [missing?, ← names_of_captures hc] at hm
  rw [answer_of_captures he hc ha, assign_eq_error (fun _ _ hb => captured?_eq hc hb) hm]
  rfl

theorem exists_answer_of_captured (he : r.enabled = true)
    (hc : (r.pattern.captures? q.path).isSome = true)
    (ha : (r.actions.forText? (q.verb r.actions)).isSome = true)
    (hm : r.missing? q.path = none) : ∃ i, r.answer q = .ok i := by
  obtain ⟨texts, hc⟩ := Option.isSome_iff_exists.mp hc
  obtain ⟨action, ha⟩ := Option.isSome_iff_exists.mp ha
  obtain ⟨ps, hps⟩ : ∃ ps, r.assign (bindings r.pattern texts) (seed q.query action) = .ok ps := by
    refine exists_assign _ fun name text hb hr => ?_
    rw [← captured?_eq hc hb]
    exact missing?_eq_none_iff.mp hm name hr
  rw [answer_of_captures he hc ha, hps]
  exact ⟨_, rfl⟩

/-- The first objection is the one that is reported, and without one there is an answer. -/
theorem answer_cases (r : Route) (q : Request) :
    (r.objections q = [] ∧ ∃ i, r.answer q = .ok i) ∨
      ∃ reason, (r.objections q).head? = some reason ∧ r.answer q = .error reason := by
  by_cases he : r.enabled = true
  · by_cases hc : (r.pattern.captures? q.path).isSome = true
    · by_cases ha : (r.actions.forText? (q.verb r.actions)).isSome = true
      · cases hm : r.missing? q.path with
        | none => exact .inl ⟨by simp [objections, *], exists_answer_of_captured he hc ha hm⟩
        | some name =>
          exact .inr ⟨_, by simp [objections, *], answer_of_missing he hc ha hm⟩
      · rw [Option.not_isSome_iff_eq_none] at ha
        exact .inr ⟨_, by simp [objections, *], answer_of_unsupported he hc ha⟩
    · rw [Option.not_isSome_iff_eq_none] at hc
      exact .inr ⟨_, by simp [objections, *], answer_of_mismatch he hc⟩
  · rw [Bool.not_eq_true] at he
    exact .inr ⟨_, by simp [objections, *], answer_of_disabled he⟩

/-! ## Parameters -/

theorem isSome_captured?_of_answer (h : r.answer q = .ok i) (hr : name ∈ r.pattern.required) :
    (r.pattern.captured? q.path name).isSome = true := by
  rcases answer_cases r q with ⟨hnone, -⟩ | ⟨reason, -, herror⟩
  · exact (objections_eq_nil_iff.mp hnone).2.2.2 name hr
  · cases h.symm.trans herror

theorem getElem?_of_answer_of_mem (h : r.answer q = .ok i) (hn : name ∈ r.pattern.names) :
    i.parameters[name]? =
      (r.pattern.captured? q.path name <|> (r.placeholders.rules name).default).map some := by
  obtain ⟨texts, hc, -, hp, -⟩ := exists_of_answer h
  have hnames := names_of_captures hc
  obtain ⟨⟨_, text⟩, hb, rfl⟩ := List.mem_filterMap.mp (hnames ▸ hn)
  rw [getElem?_of_assign_of_mem hp (hnames ▸ r.names_nodup) hb, captured?_eq hc hb]

theorem getElem?_of_answer_of_not_mem (h : r.answer q = .ok i) (hn : name ∉ r.pattern.names) :
    i.parameters[name]? =
      if name = actionKey then some (some i.action) else q.query[name]?.map some := by
  obtain ⟨texts, hc, -, hp, -⟩ := exists_of_answer h
  rw [getElem?_of_assign hp (names_of_captures hc ▸ hn), getElem?_seed]

/-- What an invocation says of the request that it answers, name by name. -/
structure Answered (r : Route) (q : Request) (i : Invocation) : Prop where
  action : r.actions.forText? (q.verb r.actions) = some i.action
  /-- A placeholder has what its group captured, or else its default, whatever the query holds. -/
  named : ∀ name ∈ r.pattern.names, i.parameters[name]? =
    (r.pattern.captured? q.path name <|> (r.placeholders.rules name).default).map some
  key : actionKey ∉ r.pattern.names → i.parameters[actionKey]? = some (some i.action)
  other : ∀ name : String, name ∉ r.pattern.names → name ≠ actionKey →
    i.parameters[name]? = q.query[name]?.map some
  valued : ∀ name : String, i.parameters[name]? ≠ some none
  /-- A required placeholder is never left to its default or to the query. -/
  required : ∀ name ∈ r.pattern.required, ∃ text, text ≠ "" ∧
    r.pattern.captured? q.path name = some text ∧ i.parameters[name]? = some (some text)

theorem answered_of_answer (h : r.answer q = .ok i) : r.Answered q i where
  action := by
    obtain ⟨_, _, haction, _, _⟩ := exists_of_answer h
    exact haction
  named name hn := getElem?_of_answer_of_mem h hn
  key hn := by rw [getElem?_of_answer_of_not_mem h hn, if_pos rfl]
  other name hn hne := by rw [getElem?_of_answer_of_not_mem h hn, if_neg hne]
  valued name := by
    by_cases hn : name ∈ r.pattern.names
    · simp [getElem?_of_answer_of_mem h hn]
    · rw [getElem?_of_answer_of_not_mem h hn]
      split <;> simp
  required name hr := by
    obtain ⟨text, htext⟩ := Option.isSome_iff_exists.mp (isSome_captured?_of_answer h hr)
    refine ⟨text, Pattern.ne_empty_of_captured? htext, htext, ?_⟩
    rw [getElem?_of_answer_of_mem h (mem_names_of_required hr), htext]
    rfl

/-- What a route answers: an invocation if nothing stands against it, and else the first of what
does. -/
theorem answer_determined (r : Route) (q : Request) :
    ((∃ i, (r.tryMatch q).answer = .ok i) ↔
      r.enabled = true ∧ (r.pattern.captures? q.path).isSome = true ∧
        (r.actions.forText? (q.verb r.actions)).isSome = true ∧
        ∀ name ∈ r.pattern.required, (r.pattern.captured? q.path name).isSome = true) ∧
    (∀ reason, (r.tryMatch q).answer = .error reason ↔
      (r.objections q).head? = some reason) ∧
    (∀ reason, (r.tryMatch q).answer = .error reason →
      (r.tryMatch q).counts = [.refused r.path reason]) ∧
    ∀ i, (r.tryMatch q).answer = .ok i → r.Answered q i := by
  rw [answer_tryMatch, ← objections_eq_nil_iff]
  refine ⟨?_, ?_, ?_, fun i hi => answered_of_answer hi⟩
  · rcases answer_cases r q with ⟨hnone, hi⟩ | ⟨reason, hhead, herror⟩
    · simp [hnone, hi]
    · have hne : r.objections q ≠ [] := by
        rintro hnil
        simp [hnil] at hhead
      simp [herror, hne]
  · rcases answer_cases r q with ⟨hnone, i, hi⟩ | ⟨reason, hhead, herror⟩
    · simp [hnone, hi]
    · simp [hhead, herror]
  · intro reason herror
    simp [tryMatch, herror]

/-! ## The action -/

/-- Neither the path nor the query keeps the action from its parameter, unless a placeholder has the
name of that parameter: then it is there only if it is what the path has or else the default. -/
theorem parameter?_action_iff (hi : (r.tryMatch q).answer = .ok i) :
    i.parameter? actionKey = some i.action ↔
      (actionKey ∈ r.pattern.names → (r.pattern.captured? q.path actionKey <|>
        (r.placeholders.rules actionKey).default) = some i.action) := by
  rw [answer_tryMatch] at hi
  have hanswered := answered_of_answer hi
  by_cases hn : actionKey ∈ r.pattern.names
  · have hnamed := hanswered.named _ hn
    simp only [Invocation.parameter?, hnamed, hn, true_implies]
    cases r.pattern.captured? q.path actionKey <|> (r.placeholders.rules actionKey).default <;> simp
  · simp [Invocation.parameter?, hanswered.key hn, hn]

/-- So where the query has a value of its own under that name. -/
theorem parameter?_action_of_query : ∃ r i, ofSettings "/<id>" [] = .ok r ∧
    (r.tryMatch { method := "GET", path := "/7", query := {("action", "drop")} }).answer = .ok i ∧
    i.parameter? actionKey = some i.action := by
  let q : Request := { method := "GET", path := "/7", query := {("action", "drop")} }
  have hmatch : ∃ r, ofSettings "/<id>" [] = .ok r ∧ actionKey ∉ r.pattern.names ∧
      ∃ i, (r.tryMatch q).answer = .ok i ∧ i.action = "read" := by
    decide +kernel
  obtain ⟨r, hr, hnot, i, hi, -⟩ := hmatch
  exact ⟨r, i, hr, hi, (parameter?_action_iff hi).mpr fun hn => absurd hn hnot⟩

/-- A placeholder of that name takes the place of the action, and removes it where its group is left
out. -/
theorem parameter?_action_of_placeholder : ∃ r, ofSettings "/[<action>]" [] = .ok r ∧
    (∃ i, (r.tryMatch { method := "GET", path := "/" }).answer = .ok i ∧
      i.action = "read" ∧ i.parameter? actionKey = none) ∧
    ∃ i, (r.tryMatch { method := "GET", path := "/on" }).answer = .ok i ∧
      i.action = "read" ∧ i.parameter? actionKey = some "on" := by
  decide +kernel

/-! ## Building again -/

/-- A request that a route matches can be built again from its invocation, on any base. -/
theorem exists_construct_of_match (hi : (r.tryMatch q).answer = .ok i) (base : String) :
    ∃ url, r.construct? i base = some url := by
  rw [answer_tryMatch] at hi
  obtain ⟨_, _, haction, _, hhandler⟩ := exists_of_answer hi
  obtain ⟨v, -, hv⟩ := Actions.forText?_eq_some_iff.mp haction
  obtain ⟨cs, hcs⟩ : ∃ cs, r.pattern.template.fill i.parameters = some cs := by
    refine exists_fill fun name hname => ?_
    rw [← r.compiled.required_eq] at hname
    obtain ⟨text, -, -, htext⟩ := (answered_of_answer hi).required name hname
    rw [htext]
    rfl
  have hcontains := Actions.contains_iff.mpr ⟨v, hv⟩
  exact ⟨_, build?_eq_some_iff.mpr ⟨⟨hhandler.symm, hcontains⟩, cs, hcs, rfl⟩⟩

/-- So for a placeholder in the place of the action, and another one that takes its default. -/
theorem exists_construct_of_match_store : ∃ r i,
    ofSettings "/<action>[/<id>]" [.requirement "action" "[a-z]+", .default "id" "1",
      .action .post "store"] = .ok r ∧
    (r.tryMatch { method := "POST", path := "/on", query := {("id", "9")} }).answer = .ok i ∧
    ∃ url, r.construct? i "https://example.com/" = some url := by
  let q : Request := { method := "POST", path := "/on", query := {("id", "9")} }
  have hmatch : ∃ r, ofSettings "/<action>[/<id>]" [.requirement "action" "[a-z]+",
      .default "id" "1", .action .post "store"] = .ok r ∧
      ∃ i, (r.tryMatch q).answer = .ok i ∧ i.action = "store" := by
    decide +kernel
  obtain ⟨r, hr, i, hi, -⟩ := hmatch
  exact ⟨r, i, hr, hi, exists_construct_of_match hi _⟩

end Route

end PathRoute
