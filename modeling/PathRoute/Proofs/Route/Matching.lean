import PathRoute.Proofs.Pattern.Captures
import PathRoute.Proofs.Template.Parsing
import PathRoute.Route.Draft
import PathRoute.Route.Match

/-!
# Matching by readings

Where no placeholder has a requirement of its own, a route answers the requests whose paths its
template reads, and the parameters of an answer are what the placeholders take in a reading.
-/

namespace PathRoute

open Template

namespace Route

/-- The template of a route is what its path is read as. -/
theorem parse_path (r : Route) : Template.parse r.path = .ok r.pattern.template :=
  r.compiled.parse_path

theorem template_eq {r : Route} {path : String} {t : Template} (hr : r.path = path)
    (h : Template.parse path = .ok t) : r.pattern.template = t := by
  subst hr
  exact Except.ok.inj (r.parse_path.symm.trans h)

/-- A route with a placeholder and another one in a group. -/
theorem exists_articles : ∃ r : Route, ofSettings "/articles/<id>[/<slug>]" [] = .ok r ∧
    r.path = "/articles/<id>[/<slug>]" ∧ r.actions = .defaults ∧ r.placeholders = ∅ ∧
    r.enabled = true ∧ r.pattern.template = .literal "/articles/" (.placeholder "id"
      (.optional (.literal "/" (.placeholder "slug" .nil)) .nil)) := by
  obtain ⟨r, hr, hpath, -, hactions, hrules, henabled⟩ :=
    exists_ofSettings_nil "/articles/<id>[/<slug>]" (by decide +kernel)
  exact ⟨r, hr, hpath, hactions, hrules, henabled, template_eq hpath (by decide +kernel)⟩

theorem parsed (r : Route) : Parsed r.path.toList r.pattern.template := parsed_of_parse r.parse_path

theorem names_nodup (r : Route) : r.pattern.names.Nodup := by
  rw [r.compiled.names_eq]
  exact r.parsed.names_nodup

theorem mem_names_of_required {r : Route} {name : String} (h : name ∈ r.pattern.required) :
    name ∈ r.pattern.names := by
  rw [r.compiled.required_eq] at h
  rw [r.compiled.names_eq]
  exact r.pattern.template.required_sublist.mem h

variable {r : Route} {bs : List (Option String × Option String)} {ps qs : Parameters}
  {name other : String} {text : Option String}

/-! ## Assigning parameters -/

/-- One placeholder changes its own parameter only, to what was captured or else its default. -/
theorem exists_of_assign_cons (h : r.assign ((some name, text) :: bs) ps = .ok qs) :
    ∃ ps' : Parameters, r.assign bs ps' = .ok qs ∧
      ps'[name]? = (text.filter (· ≠ "") <|> (r.placeholders.rules name).default).map some ∧
      ∀ other, other ≠ name → ps'[other]? = ps[other]? := by
  rw [assign] at h
  split at h
  · rename_i value hvalue
    refine ⟨_, h, ?_, fun other hne => ?_⟩
    · rw [hvalue]
      simp
    · simp [Std.ExtTreeMap.getElem?_insert, hne.symm]
  · rename_i hnone
    split at h
    · cases h
    · split at h
      · rename_i value hdefault
        refine ⟨_, h, ?_, fun other hne => ?_⟩
        · rw [hnone, hdefault]
          simp
        · simp [Std.ExtTreeMap.getElem?_insert, hne.symm]
      · rename_i hdefault
        refine ⟨_, h, ?_, fun other hne => ?_⟩
        · rw [hnone, hdefault]
          simp
        · simp [Std.ExtTreeMap.getElem?_erase, hne.symm]

/-- Parameters that are not assigned stay. -/
theorem getElem?_of_assign (h : r.assign bs ps = .ok qs) (hn : name ∉ bs.filterMap Prod.fst) :
    qs[name]? = ps[name]? := by
  induction bs generalizing ps with
  | nil => exact congrArg (fun m : Parameters => m[name]?) (Except.ok.inj h).symm
  | cons b bs ih =>
    obtain ⟨_ | other, text⟩ := b
    · exact ih h hn
    · obtain ⟨ps', h', -, hother⟩ := exists_of_assign_cons h
      have hne : name ≠ other ∧ name ∉ bs.filterMap Prod.fst := by simpa using hn
      rw [ih h' hne.2, hother name hne.1]

/-- Each placeholder has what was captured for it, or else its default. -/
theorem getElem?_of_assign_of_mem (h : r.assign bs ps = .ok qs)
    (hn : (bs.filterMap Prod.fst).Nodup) (hm : (some name, text) ∈ bs) :
    qs[name]? = (text.filter (· ≠ "") <|> (r.placeholders.rules name).default).map some := by
  induction bs generalizing ps with
  | nil => cases hm
  | cons b bs ih =>
    obtain ⟨_ | other, text'⟩ := b
    · rcases List.mem_cons.mp hm with heq | hm
      · cases heq
      · exact ih h hn hm
    · obtain ⟨ps', h', hname, -⟩ := exists_of_assign_cons h
      obtain ⟨hnew, hn'⟩ := List.nodup_cons.mp hn
      rcases List.mem_cons.mp hm with heq | hm
      · cases heq
        rw [getElem?_of_assign h' hnew, hname]
      · exact ih h' hn' hm

/-- Parameters can be assigned if something was captured for each required placeholder. -/
theorem exists_assign (ps : Parameters)
    (h : ∀ name text, (some name, text) ∈ bs → name ∈ r.pattern.required →
      (text.filter (· ≠ "")).isSome = true) : ∃ qs, r.assign bs ps = .ok qs := by
  induction bs generalizing ps with
  | nil => exact ⟨ps, rfl⟩
  | cons b bs ih =>
    have hrest : ∀ name text, (some name, text) ∈ bs → name ∈ r.pattern.required →
        (text.filter (· ≠ "")).isSome = true :=
      fun name text hm => h name text (List.mem_cons_of_mem _ hm)
    obtain ⟨_ | name, text⟩ := b
    · exact ih ps hrest
    · rw [assign]
      split
      · exact ih _ hrest
      · rename_i hnone
        have hnot : r.pattern.required.contains name = false := by
          rw [← Bool.not_eq_true, List.contains_iff_mem]
          intro hr
          have hsome := h name text List.mem_cons_self hr
          rw [hnone] at hsome
          cases hsome
        rw [hnot]
        split
        · rename_i hfalse
          cases hfalse
        · split
          · exact ih _ hrest
          · exact ih _ hrest

theorem getElem?_seed (query : Entries) (action name : String) :
    (seed query action)[name]? =
      if name = actionKey then some (some action) else query[name]?.map some := by
  rw [seed, Std.ExtTreeMap.getElem?_insert]
  simp only [Std.compare_eq_iff_eq, eq_comm (a := actionKey)]
  split
  · rfl
  · exact Std.ExtTreeMap.getElem?_map

/-! ## Answers -/

variable {q : Request} {i : Invocation}

theorem answer_tryMatch (r : Route) (q : Request) : (r.tryMatch q).answer = r.answer q := by
  unfold tryMatch
  cases r.answer q <;> rfl

theorem answer_of_mismatch (he : r.enabled = true) (hc : r.pattern.captures? q.path = none) :
    r.answer q = .error .pathMismatch := by
  simp [answer, he, hc]
  rfl

/-- The answer where the path matches and the verb has an action. -/
theorem answer_of_captures {texts : List (Option String)} {action : String}
    (he : r.enabled = true) (hc : r.pattern.captures? q.path = some texts)
    (ha : r.actions.forText? (q.verb r.actions) = some action) :
    r.answer q = (r.assign (bindings r.pattern texts) (seed q.query action)).map fun parameters =>
      { handler := r.handler
        method := q.verb r.actions
        action
        parameters
        format := r.formats.negotiate q.accept r.pinned
        post := q.post
        files := q.files
        secured := q.secured } := by
  simp only [answer, he, hc, ha, if_true]
  cases r.assign (bindings r.pattern texts) (seed q.query action) <;> rfl

/-- What an answer tells of the route and the request. -/
theorem exists_of_answer (h : r.answer q = .ok i) :
    ∃ texts, r.pattern.captures? q.path = some texts ∧
      r.actions.forText? (q.verb r.actions) = some i.action ∧
      r.assign (bindings r.pattern texts) (seed q.query i.action) = .ok i.parameters ∧
      i.handler = r.handler := by
  cases he : r.enabled with
  | false =>
    simp only [answer, he] at h
    cases h
  | true =>
    cases hc : r.pattern.captures? q.path with
    | none =>
      rw [answer_of_mismatch he hc] at h
      cases h
    | some texts =>
      cases ha : r.actions.forText? (q.verb r.actions) with
      | none =>
        simp only [answer, he, hc, ha] at h
        cases h
      | some action =>
        rw [answer_of_captures he hc ha] at h
        cases hp : r.assign (bindings r.pattern texts) (seed q.query action) with
        | error e =>
          rw [hp] at h
          cases h
        | ok ps =>
          rw [hp] at h
          cases h
          exact ⟨texts, rfl, rfl, hp, rfl⟩

/-- But for its action and its parameters, an answer is what the route and the request say. -/
theorem eq_of_answer (h : r.answer q = .ok i) :
    i =
      { handler := r.handler
        method := q.verb r.actions
        action := i.action
        parameters := i.parameters
        format := r.formats.negotiate q.accept r.pinned
        post := q.post
        files := q.files
        secured := q.secured } := by
  obtain ⟨texts, hc, ha, hp, -⟩ := exists_of_answer h
  have he : r.enabled = true := by
    by_contra he
    simp only [answer, he] at h
    cases h
  rw [answer_of_captures he hc ha, hp] at h
  exact (Except.ok.inj h).symm

/-! ## Readings -/

variable {texts : List (Option String)} {vs : List (Option (List Char))} {action : String}

/-- What placeholders are bound to is what they take in a reading. -/
theorem mem_bindings_iff (ht : texts.drop 1 = vs.map (·.map String.ofList)) :
    (some name, text) ∈ bindings r.pattern texts ↔
      ∃ v, (name, v) ∈ r.pattern.template.values vs ∧ text = v.map String.ofList := by
  rw [bindings, ht, r.compiled.captureOrder_eq, List.zip_map_right, List.mem_map]
  constructor
  · rintro ⟨⟨_, v⟩, hm, heq⟩
    cases heq
    exact ⟨v, mem_values_iff.mpr hm, rfl⟩
  · rintro ⟨v, hm, rfl⟩
    exact ⟨(some name, v), mem_values_iff.mp hm, rfl⟩

/-- The placeholders that are bound, in template order. -/
theorem filterMap_fst_bindings (ht : texts.drop 1 = vs.map (·.map String.ofList))
    (hlen : vs.length = r.pattern.captureOrder.length) :
    (bindings r.pattern texts).filterMap Prod.fst = r.pattern.names := by
  have hfst : (bindings r.pattern texts).map Prod.fst = r.pattern.captureOrder :=
    List.map_fst_zip (by rw [ht, List.length_map, hlen])
  rw [Pattern.names, ← hfst, List.filterMap_map]
  rfl

/-- Whatever a placeholder takes, it counts as captured. -/
theorem filter_map_ofList {ps : Placeholders} {t : Template} {cs : List Char}
    {v : Option (List Char)} (h : Reads ps t cs vs) (hm : (name, v) ∈ t.values vs) :
    (v.map String.ofList).filter (· ≠ "") = v.map String.ofList := by
  cases v with
  | none => rfl
  | some w =>
    have hne := (h.isWord_of_mem hm).1
    simpa [Option.filter_some] using hne

/-- The parameters of an answer are those of the query and the action, and over them what the
placeholders take in a reading of the path. -/
theorem exists_reads_of_answer (ht : r.pattern.template.Unrestricted r.placeholders)
    (h : r.answer q = .ok i) :
    ∃ vs, r.pattern.template.Reads r.placeholders q.path.toList vs ∧
      (∀ name v, (name, v) ∈ r.pattern.template.values vs → i.parameters[name]? =
        (v.map String.ofList <|> (r.placeholders.rules name).default).map some) ∧
      ∀ name, name ∉ r.pattern.template.names →
        i.parameters[name]? = (seed q.query i.action)[name]? := by
  obtain ⟨texts, hc, ha, hp, -⟩ := exists_of_answer h
  obtain ⟨vs, hvs, htexts⟩ := Pattern.reads_of_captures r.compile_path ht hc
  have hnames := filterMap_fst_bindings (r := r) htexts
    (hvs.length_eq.trans (congrArg List.length r.compiled.captureOrder_eq.symm))
  refine ⟨vs, hvs, fun name v hm => ?_, fun name hn => ?_⟩
  · have hb := (mem_bindings_iff htexts).mpr ⟨v, hm, rfl⟩
    rw [getElem?_of_assign_of_mem hp (hnames ▸ r.names_nodup) hb, filter_map_ofList hvs hm]
  · rw [← r.compiled.names_eq, ← hnames] at hn
    exact getElem?_of_assign hp hn

/-- A path that can be read is answered, where no required placeholder has a default. -/
theorem exists_answer (he : r.enabled = true)
    (ht : r.pattern.template.Unrestricted r.placeholders)
    (hd : ∀ name ∈ r.pattern.required, (r.placeholders.rules name).default = none)
    (ha : r.actions.forText? (q.verb r.actions) = some action)
    (hvs : r.pattern.template.Reads r.placeholders q.path.toList vs) :
    ∃ i, r.answer q = .ok i ∧ i.action = action := by
  have hsome := (Pattern.captures_isSome_iff r.compile_path ht q.path).mpr ⟨vs, hvs⟩
  obtain ⟨texts, hc⟩ := Option.isSome_iff_exists.mp hsome
  obtain ⟨ws, hws, htexts⟩ := Pattern.reads_of_captures r.compile_path ht hc
  obtain ⟨ps, hps⟩ : ∃ ps, r.assign (bindings r.pattern texts) (seed q.query action) = .ok ps := by
    refine exists_assign _ fun name text hm hr => ?_
    obtain ⟨v, hv, rfl⟩ := (mem_bindings_iff htexts).mp hm
    rw [filter_map_ofList hws hv, Option.isSome_map]
    rw [r.compiled.required_eq] at hd hr
    exact hws.isSome_of_required r.parsed.names_nodup hd hv hr
  rw [answer_of_captures he hc ha, hps]
  exact ⟨_, rfl, rfl⟩

/-- A route answers the requests for the paths of its template's language, and reports for every
other path that it does not match. -/
theorem matches_iff_mem_language (he : r.enabled = true)
    (ht : r.pattern.template.Unrestricted r.placeholders)
    (hd : ∀ name ∈ r.pattern.required, (r.placeholders.rules name).default = none)
    (ha : (r.actions.forText? (q.verb r.actions)).isSome = true) :
    ((∃ i, (r.tryMatch q).answer = .ok i) ↔
      q.path.toList ∈ r.pattern.template.language r.placeholders) ∧
    (q.path.toList ∉ r.pattern.template.language r.placeholders →
      (r.tryMatch q).answer = .error .pathMismatch ∧
      (r.tryMatch q).counts = [.refused r.path .pathMismatch]) := by
  rw [answer_tryMatch, mem_language_iff]
  refine ⟨⟨?_, ?_⟩, ?_⟩
  · rintro ⟨i, hi⟩
    obtain ⟨vs, hvs, -⟩ := exists_reads_of_answer ht hi
    exact ⟨vs, hvs⟩
  · rintro ⟨vs, hvs⟩
    obtain ⟨action, ha⟩ := Option.isSome_iff_exists.mp ha
    obtain ⟨i, hi, -⟩ := exists_answer he ht hd ha hvs
    exact ⟨i, hi⟩
  · intro hnot
    have hc : r.pattern.captures? q.path = none := by
      rw [← Option.not_isSome_iff_eq_none]
      exact mt (Pattern.captures_isSome_iff r.compile_path ht q.path).mp hnot
    have hmismatch := answer_of_mismatch he hc
    refine ⟨hmismatch, ?_⟩
    simp only [tryMatch, hmismatch]

/-- So for a route with a group. -/
theorem matches_articles_iff : ∃ r, ofSettings "/articles/<id>[/<slug>]" [] = .ok r ∧
    ((∃ i, (r.tryMatch { method := "GET", path := "/articles/7/a" }).answer = .ok i) ↔
      "/articles/7/a".toList ∈ r.pattern.template.language r.placeholders) := by
  obtain ⟨r, hr, -, hactions, hrules, henabled, -⟩ := exists_articles
  refine ⟨r, hr, (matches_iff_mem_language henabled ?_ ?_ ?_).1⟩
  · rw [hrules]
    exact unrestricted_empty _
  · intro name _
    rw [hrules, Placeholders.rules_empty]
  · rw [hactions]
    decide +kernel

end Route

end PathRoute
