import PathRoute.Proofs.Pattern.Defaults
import PathRoute.Proofs.Route.Answering

/-!
# What a default loses

To give a placeholder a default is to let its group be left out, and a path may be read so where it
was read with the placeholder before. A route with the default answers what it answered without it,
in the same way where the placeholder has a text. It refuses a request only where it reads the path
without the placeholder and a placeholder that is required, perhaps the same one, is left empty.
-/

namespace PathRoute

/-! ## Settings -/

namespace Placeholders

variable {ps ps' : Placeholders} {name : String}

theorem Defaulted.setRequirement (h : ps.Defaulted name ps') (other requirement : String) :
    Defaulted name (ps.setRequirement other requirement)
      (ps'.setRequirement other requirement) where
  requirement m := by grind [rules_setRequirement, h.requirement m]
  default m hm := by grind [rules_setRequirement, h.default m hm]
  isSome := by grind [rules_setRequirement, h.isSome]

theorem Defaulted.setDefault (h : ps.Defaulted name ps') (other value : String) :
    Defaulted name (ps.setDefault other value) (ps'.setDefault other value) where
  requirement m := by grind [rules_setDefault, h.requirement m]
  default m hm := by grind [rules_setDefault, h.default m hm]
  isSome := by grind [rules_setDefault, h.isSome]

theorem defaulted_setDefault (ps : Placeholders) (name value : String) :
    Defaulted name ps (ps.setDefault name value) where
  requirement m := by grind [rules_setDefault]
  default m hm := by grind [rules_setDefault]
  isSome := by simp

end Placeholders

/-- The same settings but for a default that one placeholder has been given. -/
structure Draft.Defaulted (name : String) (d d' : Draft) : Prop where
  handler : d'.handler = d.handler
  actions : d'.actions = d.actions
  placeholders : d.placeholders.Defaulted name d'.placeholders
  formats : d'.formats = d.formats
  pinned : d'.pinned = d.pinned
  enabled : d'.enabled = d.enabled

namespace Draft

variable {name : String} {d d' : Draft}

theorem Defaulted.apply (h : Defaulted name d d') (s : Setting) :
    Defaulted name (d.apply s) (d'.apply s) := by
  cases s with
  | handler => exact { h with handler := rfl }
  | verb => exact { h with actions := by simp only [Draft.apply, h.actions] }
  | action => exact { h with actions := by simp only [Draft.apply, h.actions] }
  | requirement other text =>
    exact { h with placeholders := h.placeholders.setRequirement other text }
  | default other value => exact { h with placeholders := h.placeholders.setDefault other value }
  | format => exact { h with formats := by simp only [Draft.apply, h.formats] }
  | formats => exact { h with formats := rfl }
  | pinned => exact { h with pinned := rfl }
  | enabled => exact { h with enabled := rfl }
  | observer => exact { h with }

theorem Defaulted.foldl (h : Defaulted name d d') (ss : List Setting) :
    Defaulted name (ss.foldl Draft.apply d) (ss.foldl Draft.apply d') := by
  induction ss generalizing d d' with
  | nil => exact h
  | cons s ss ih => exact ih (h.apply s)

/-- One more setting gives a placeholder a default, wherever it stands. -/
theorem defaulted_ofSettings (ss ss' : List Setting) (name value : String) :
    Defaulted name (ofSettings (ss ++ ss')) (ofSettings (ss ++ .default name value :: ss')) := by
  rw [ofSettings, ofSettings, List.foldl_append, List.foldl_append, List.foldl_cons]
  refine Defaulted.foldl ?_ ss'
  exact ⟨rfl, rfl, Placeholders.defaulted_setDefault .., rfl, rfl, rfl⟩

end Draft

/-! ## Two routes -/

namespace Pattern

/-- The group of a placeholder takes part in what a path captures. -/
def TakesPart (p : Pattern) (path name : String) : Prop :=
  ∃ texts text, p.captures? path = some texts ∧ texts[p.groupOf name]? = some (some text)

theorem takesPart_of_captured? {p : Pattern} {path name : String}
    (h : (p.captured? path name).isSome = true) :
    p.TakesPart path name := by
  obtain ⟨text, htext⟩ := Option.isSome_iff_exists.mp h
  obtain ⟨texts, hc, htext⟩ := Option.bind_eq_some_iff.mp htext
  have hjoin := (Option.filter_eq_some_iff.mp htext).1
  exact ⟨texts, text, hc, Option.join_eq_some_iff.mp hjoin⟩

end Pattern

namespace Route

variable {path name value : String} {ss ss' : List Setting} {r r' : Route} {q : Request}
  {i j : Invocation}

/-- The same route but for a default that one placeholder has been given. -/
structure Defaulted (name : String) (r r' : Route) : Prop where
  handler : r'.handler = r.handler
  actions : r'.actions = r.actions
  placeholders : r.placeholders.Defaulted name r'.placeholders
  formats : r'.formats = r.formats
  pinned : r'.pinned = r.pinned
  enabled : r'.enabled = r.enabled
  path : r'.path = r.path

theorem defaulted_of_ofSettings (hr : ofSettings path (ss ++ ss') = .ok r)
    (hr' : ofSettings path (ss ++ .default name value :: ss') = .ok r') : Defaulted name r r' := by
  have hd := Draft.defaulted_ofSettings ss ss' name value
  have hm := Draft.made_of_build hr
  have hm' := Draft.made_of_build hr'
  constructor
  · rw [hm'.handler_eq, hm.handler_eq, hd.handler]
  · rw [hm'.actions_eq, hm.actions_eq, hd.actions]
  · rw [hm'.placeholders_eq, hm.placeholders_eq]
    exact hd.placeholders
  · rw [hm'.formats_eq, hm.formats_eq, hd.formats]
  · rw [hm'.pinned_eq, hm.pinned_eq, hd.pinned]
  · rw [hm'.enabled_eq, hm.enabled_eq, hd.enabled]
  · rw [hm'.path_eq, hm.path_eq]

namespace Defaulted

theorem template_eq (h : Defaulted name r r') : r'.pattern.template = r.pattern.template :=
  Route.template_eq h.path r.parse_path

theorem captureOrder_eq (h : Defaulted name r r') :
    r'.pattern.captureOrder = r.pattern.captureOrder := by
  rw [r.compiled.captureOrder_eq, r'.compiled.captureOrder_eq, h.template_eq]

theorem required_eq (h : Defaulted name r r') : r'.pattern.required = r.pattern.required := by
  rw [r.compiled.required_eq, r'.compiled.required_eq, h.template_eq]

theorem groupOf_eq (h : Defaulted name r r') (other : String) :
    r'.pattern.groupOf other = r.pattern.groupOf other := by
  rw [Pattern.groupOf, Pattern.groupOf, h.captureOrder_eq]

theorem loosened (h : Defaulted name r r') (hname : name ∈ r.pattern.names)
    (hnone : (r.placeholders.rules name).default = none)
    (hclosed : r.pattern.template.Closed r.placeholders) :
    Regex.Loosened (r.pattern.groupOf name) (Template.value r.placeholders name) r.pattern.regex
      r'.pattern.regex := by
  have hpath : r'.pattern.path = r.pattern.path := h.path
  exact Pattern.loosened_of_compile r.compile_path (hpath ▸ r'.compile_path) hclosed h.placeholders
    hnone hname

/-- Where the placeholder captures, every placeholder captures what it captured before. -/
theorem captured?_of_takesPart (h : Defaulted name r r') (hname : name ∈ r.pattern.names)
    (hnone : (r.placeholders.rules name).default = none)
    (hclosed : r.pattern.template.Closed r.placeholders) (ht : r'.pattern.TakesPart path name)
    (other : String) : r'.pattern.captured? path other = r.pattern.captured? path other := by
  obtain ⟨texts, text, hc, htext⟩ := ht
  rw [h.groupOf_eq] at htext
  have hsame := Pattern.captures?_of_loosened (h.loosened hname hnone hclosed) (Nat.succ_ne_zero _)
    hc htext
  rw [Pattern.captured?, Pattern.captured?, hc, hsame, h.groupOf_eq]

/-- Two answers are the same where all placeholders captured the same, and that with the default
has no need of it. -/
theorem eq_of_answers (h : Defaulted name r r') (hi : r.answer q = .ok i) (hj : r'.answer q = .ok j)
    (hsame : ∀ other, r'.pattern.captured? q.path other = r.pattern.captured? q.path other)
    (hsome : (r'.pattern.captured? q.path name).isSome = true) : j = i := by
  have hi' := answered_of_answer hi
  have hj' := answered_of_answer hj
  have hnames : r'.pattern.names = r.pattern.names := congrArg (·.filterMap id) h.captureOrder_eq
  have haction : j.action = i.action := by
    have := hj'.action
    rw [h.actions, hi'.action] at this
    exact (Option.some.inj this).symm
  have hparameters : j.parameters = i.parameters := by
    refine Std.ExtTreeMap.ext_getElem? fun other => ?_
    by_cases hn : other ∈ r.pattern.names
    · rw [hi'.named other hn, hj'.named other (hnames ▸ hn), hsame]
      by_cases heq : other = name
      · subst heq
        rw [hsame] at hsome
        obtain ⟨text, htext⟩ := Option.isSome_iff_exists.mp hsome
        rw [htext]
        rfl
      · rw [h.placeholders.default other heq]
    · rw [getElem?_of_answer_of_not_mem hi hn, getElem?_of_answer_of_not_mem hj (hnames ▸ hn),
        haction]
  rw [eq_of_answer hi, eq_of_answer hj, h.handler, h.actions, h.formats, h.pinned, haction,
    hparameters]

end Defaulted

/-- A request that is answered is still answered when a placeholder is given a default, and in the
same way where that placeholder captures a text. It is refused only where the path is now read
without the placeholder and this leaves a required placeholder empty. -/
theorem answer_with_default (hr : ofSettings path (ss ++ ss') = .ok r)
    (hr' : ofSettings path (ss ++ .default name value :: ss') = .ok r')
    (hname : name ∈ r.pattern.names) (hnone : (r.placeholders.rules name).default = none)
    (hclosed : ∀ other ∈ r.pattern.names,
      (Regex.parse ("(" ++ Template.requirement r.placeholders other ++ ")")).isOk = true)
    (hi : (r.tryMatch q).answer = .ok i) :
    (∃ j, (r'.tryMatch q).answer = .ok j ∧
      ((r'.pattern.captured? q.path name).isSome = true → j = i)) ∨
    (¬r'.pattern.TakesPart q.path name ∧ ∃ other ∈ r.pattern.required,
      r'.pattern.captured? q.path other = none ∧
      (r'.tryMatch q).answer = .error (.missingParameter other)) := by
  have h := defaulted_of_ofSettings hr hr'
  rw [r.compiled.names_eq] at hclosed
  simp only [answer_tryMatch] at hi ⊢
  have hpart : r'.pattern.TakesPart q.path name →
      ∀ other, r'.pattern.captured? q.path other = r.pattern.captured? q.path other :=
    h.captured?_of_takesPart hname hnone hclosed
  obtain ⟨henabled, hpath, hverb, hrequired⟩ : r.enabled = true ∧ _ := by
    rcases answer_cases r q with ⟨hnil, -⟩ | ⟨reason, -, herror⟩
    · exact objections_eq_nil_iff.mp hnil
    · cases hi.symm.trans herror
  have hpath' : (r'.pattern.captures? q.path).isSome = true := by
    rw [Pattern.captures?, Option.isSome_map] at hpath ⊢
    exact Regex.captures_isSome_of_loosened (h.loosened hname hnone hclosed) hpath
  rw [← h.enabled] at henabled
  rw [← h.actions] at hverb
  cases hmissing : r'.missing? q.path with
  | none =>
    obtain ⟨j, hj⟩ := exists_answer_of_captured henabled hpath' hverb hmissing
    refine .inl ⟨j, hj, fun hsome => ?_⟩
    exact h.eq_of_answers hi hj (hpart (Pattern.takesPart_of_captured? hsome)) hsome
  | some other =>
    have hother := List.find?_some hmissing
    rw [Bool.and_eq_true, List.contains_iff_mem, Option.isNone_iff_eq_none] at hother
    obtain ⟨hmem, hempty⟩ := hother
    rw [h.required_eq] at hmem
    refine .inr ⟨fun ht => ?_, other, hmem, hempty,
      answer_of_missing henabled hpath' hverb hmissing⟩
    have := hrequired other hmem
    rw [← hpart ht other, hempty] at this
    cases this

/-- So for a page that the path names. -/
theorem answer_with_default_page : ∃ r r' i, ofSettings "/<page>" [] = .ok r ∧
    ofSettings "/<page>" [.default "page" "1"] = .ok r' ∧
    (r.tryMatch { method := "GET", path := "/5" }).answer = .ok i ∧
    (r'.tryMatch { method := "GET", path := "/5" }).answer = .ok i := by
  let q : Request := { method := "GET", path := "/5" }
  have hroutes : ∃ r, ofSettings "/<page>" [] = .ok r ∧ "page" ∈ r.pattern.names ∧
      (r.placeholders.rules "page").default = none ∧
      (∀ other ∈ r.pattern.names,
        (Regex.parse ("(" ++ Template.requirement r.placeholders other ++ ")")).isOk = true) ∧
      (∃ i, (r.tryMatch q).answer = .ok i ∧ i.action = "read") ∧
      ∃ r', ofSettings "/<page>" [.default "page" "1"] = .ok r' ∧
        (r'.pattern.captured? q.path "page").isSome = true := by
    decide +kernel
  obtain ⟨r, hr, hname, hnone, hclosed, ⟨i, hi, -⟩, r', hr', hsome⟩ := hroutes
  refine ⟨r, r', i, hr, hr', hi, ?_⟩
  have hempty : ofSettings "/<page>" ([] ++ []) = .ok r := hr
  rcases answer_with_default hempty hr' hname hnone hclosed hi with ⟨j, hj, hsame⟩ | ⟨hpart, -⟩
  · exact hsame hsome ▸ hj
  · exact absurd (Pattern.takesPart_of_captured? hsome) hpart

/-- Of two words that share the path between them, the second one gives way to the first when it has
a default, and is missed. -/
theorem not_answered_with_default :
    let q : Request := { method := "GET", path := "/abc" }
    ∃ r, ofSettings "/<a><n>" [] = .ok r ∧ "n" ∈ r.pattern.names ∧
      (r.placeholders.rules "n").default = none ∧
      (∃ i, (r.tryMatch q).answer = .ok i ∧ i.action = "read") ∧
      ∃ r', ofSettings "/<a><n>" [.default "n" "x"] = .ok r' ∧
        (r'.tryMatch q).answer = .error (.missingParameter "n") := by
  decide +kernel

/-- Of requirements that are not closed this is not so. Where a comment takes the parenthesis behind
a requirement, the sign for a default can end up in a class, and then the path is no longer matched:
the bracket of `[^a#]` stands in the comment, so that the class goes on to the next line and takes
in the sign as one more character to leave out. -/
theorem mismatched_with_default :
    let q : Request := { method := "GET", path := "/x?y]" }
    let ss : List Setting :=
      [.requirement "a" "(?x)x#", .requirement "b" "[^a#]\n", .requirement "c" "]#[\n)(y)]"]
    ∃ r, ofSettings "/<a>\n<b>\n<c>" ss = .ok r ∧ "b" ∈ r.pattern.names ∧
      (r.placeholders.rules "b").default = none ∧
      (Regex.parse ("(" ++ Template.requirement r.placeholders "a" ++ ")")).isOk = false ∧
      (∃ i, (r.tryMatch q).answer = .ok i ∧ i.parameter? "b" = some "?") ∧
      ∃ r', ofSettings "/<a>\n<b>\n<c>" (ss ++ [.default "b" "v"]) = .ok r' ∧
        (r'.tryMatch q).answer = .error .pathMismatch := by
  decide +kernel

end Route

end PathRoute
