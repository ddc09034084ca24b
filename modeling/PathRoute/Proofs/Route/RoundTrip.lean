import PathRoute.Cli.Run
import PathRoute.Proofs.Route.Building
import PathRoute.Proofs.Route.Matching
import PathRoute.Proofs.Template.Filling

/-!
# Round trips

A built URL is matched with the parameters that it was built from, where the template leaves no
doubt about them; and a matched request is built again from its invocation.
-/

namespace PathRoute.Route

open Template

variable {r : Route} {q : Request} {i : Invocation} {ps : Parameters}

/-! ## From the request to the URL -/

/-- The slashes at the front of the route's path. -/
def slashes (r : Route) : List Char := r.path.toList.takeWhile (· == '/')

theorem slashes_eq (r : Route) :
    r.slashes = List.replicate r.pattern.template.leadingSlashes '/' := by
  rw [leadingSlashes_eq r.parsed.wellFormed, r.parsed.print_eq]
  refine List.eq_replicate_iff.mpr ⟨rfl, fun c hc => ?_⟩
  simpa using List.all_eq_true.mp List.all_takeWhile c hc

/-- With its own slashes as the base, a route builds what its template is filled to. -/
theorem slashes_append_drop {cs : List Char} (h : r.pattern.template.fill ps = some cs) :
    r.slashes ++ cs.drop r.pattern.template.leadingSlashes = cs := by
  obtain ⟨ds, rfl⟩ := prefix_of_fill h
  rw [slashes_eq, List.drop_left' List.length_replicate]

theorem required_of_undefaulted (h : r.pattern.template.Undefaulted r.placeholders) :
    ∀ name ∈ r.pattern.required, (r.placeholders.rules name).default = none :=
  fun name hname => h name (r.compiled.names_eq ▸ mem_names_of_required hname)

/-- The query entries of a request that are left when the placeholders and the action are taken
away. -/
def remaining (r : Route) (q : Request) : Entries :=
  q.query.filter fun name _ => decide (name ∉ r.pattern.names ∧ name ≠ actionKey)

/-- What is left over of an invocation's parameters is what remains of the query. -/
theorem ofList_leftovers_eq (hother : ∀ name, name ∉ r.pattern.template.names →
      i.parameters[name]? = (seed q.query i.action)[name]?) :
    (Std.ExtTreeMap.ofList (leftovers r.pattern.template i.parameters) : Entries) =
      r.remaining q := by
  refine Std.ExtTreeMap.ext_getElem? fun name => ?_
  rw [getElem?_ofList_leftovers, remaining, Std.ExtTreeMap.getElem?_filter']
  split
  · rename_i hname
    have hfalse : decide (name ∉ r.pattern.names ∧ name ≠ actionKey) = false := by
      rw [r.compiled.names_eq, decide_eq_false_iff_not, not_and_or, Decidable.not_not,
        Decidable.not_not]
      exact hname.symm
    simp only [hfalse]
    cases q.query[name]? <;> rfl
  · rename_i hname
    obtain ⟨haction, hnames⟩ := not_or.mp hname
    rw [← r.compiled.names_eq] at hnames
    have htrue : decide (name ∉ r.pattern.names ∧ name ≠ actionKey) = true :=
      decide_eq_true ⟨hnames, haction⟩
    rw [hother name (r.compiled.names_eq ▸ hnames), getElem?_seed, if_neg haction]
    simp only [htrue]
    cases q.query[name]? <;> rfl

/-- A request that a route matches is built again from its invocation: its path, and what remains
of its query. -/
theorem construct_of_match (ht : r.pattern.template.Unrestricted r.placeholders)
    (hd : r.pattern.template.Undefaulted r.placeholders) (hg : r.pattern.template.GroupsGuarded)
    (hi : (r.tryMatch q).answer = .ok i) :
    ∃ url, r.construct? i (.ofList r.slashes) = some url ∧
      ((r.remaining q = ∅ ∧ url = q.path) ∨
        (r.remaining q ≠ ∅ ∧ ∃ text, url = q.path ++ "?" ++ text ∧
          Form.parse text = r.remaining q)) := by
  rw [answer_tryMatch] at hi
  obtain ⟨vs, hvs, hnames, hother⟩ := exists_reads_of_answer ht hi
  obtain ⟨_, _, haction, _, hhandler⟩ := exists_of_answer hi
  have hagrees : Agrees i.parameters r.pattern.template vs := by
    intro name v hm
    have hmem : name ∈ r.pattern.template.names :=
      map_fst_values hvs.length_eq ▸ List.mem_map_of_mem hm
    rw [hnames name v hm, hd name hmem]
    cases v <;> rfl
  have hfill := fill_of_reads hvs hd hg hagrees
  obtain ⟨v, -, hv⟩ := Actions.forText?_eq_some_iff.mp haction
  have hguard : r.handler = i.handler ∧ r.actions.contains i.action = true :=
    ⟨hhandler.symm, Actions.contains_iff.mpr ⟨v, hv⟩⟩
  refine ⟨_, build?_eq_some_iff.mpr ⟨hguard, _, hfill, rfl⟩, ?_⟩
  have hpath : String.ofList r.slashes ++ String.ofList
      (q.path.toList.drop r.pattern.template.leadingSlashes ++
        queryText (leftovers r.pattern.template i.parameters)) =
      q.path ++ String.ofList (queryText (leftovers r.pattern.template i.parameters)) := by
    rw [← String.ofList_append, ← List.append_assoc, slashes_append_drop hfill,
      String.ofList_append, String.ofList_toList]
  rw [hpath]
  have hleft := ofList_leftovers_eq hother
  by_cases hL : leftovers r.pattern.template i.parameters = []
  · rw [hL] at hleft ⊢
    exact .inl ⟨hleft.symm, String.append_empty⟩
  · refine .inr ⟨?_, .ofList (Form.encode (leftovers r.pattern.template i.parameters)), ?_, ?_⟩
    · obtain ⟨pair, hpair⟩ := List.exists_mem_of_ne_nil _ hL
      intro hempty
      have hvalue := Std.ExtTreeMap.getElem?_ofList_of_mem Std.compare_self leftovers_pairwise hpair
      rw [hleft, hempty, Std.ExtTreeMap.getElem?_empty] at hvalue
      cases hvalue
    · rw [queryText, if_neg (by rwa [List.isEmpty_iff]), String.append_assoc,
        ← String.ofList_append]
      rfl
    · rw [Form.parse_encode, hleft]

/-- So for a request that leaves a group out and has an entry of its own. -/
theorem construct_articles : ∃ r i url, ofSettings "/articles/<id>[/<slug>]" [] = .ok r ∧
    (r.tryMatch { method := "GET", path := "/articles/7", query := {("page", "2")} }).answer =
      .ok i ∧
    r.construct? i "/" = some url := by
  obtain ⟨r, hr, hpath, hactions, hrules, henabled, ht⟩ := exists_articles
  have hslashes : r.slashes = ['/'] := by
    rw [slashes, hpath]
    decide +kernel
  have hunrestricted : r.pattern.template.Unrestricted r.placeholders := by
    rw [hrules]
    exact unrestricted_empty _
  have hundefaulted : r.pattern.template.Undefaulted r.placeholders := by
    rw [hrules]
    exact undefaulted_empty _
  have hguarded : r.pattern.template.GroupsGuarded := by
    rw [ht]
    exact ⟨List.cons_ne_nil _ _, trivial, trivial⟩
  have hreads : r.pattern.template.Reads r.placeholders "/articles/7".toList
      [some ['7'], none, none] := by
    rw [ht]
    exact .literal (.word (isWord_singleton (c := '7') (by decide +kernel)) (.noGroup .nil))
  let q : Request := { method := "GET", path := "/articles/7", query := {("page", "2")} }
  have hverb : r.actions.forText? (q.verb r.actions) = some "read" := by
    rw [hactions]
    decide +kernel
  obtain ⟨i, hi, -⟩ := exists_answer henabled hunrestricted
    (required_of_undefaulted hundefaulted) hverb hreads
  rw [← answer_tryMatch] at hi
  obtain ⟨url, hurl, -⟩ := construct_of_match hunrestricted hundefaulted hguarded hi
  rw [hslashes] at hurl
  exact ⟨r, i, url, hr, hi, hurl⟩

/-! ## From the URL to the request -/

/-- What a route needs for its URLs to be read back: the path begins with a single slash, only the
query can begin with a question mark, no placeholder takes the place of the action, the
placeholders have no rules of their own, and it is clear which text each of them takes. -/
structure Reversible (r : Route) : Prop where
  slashes_eq : r.slashes = ['/']
  literals : ∀ text ∈ r.pattern.template.literals, '?' ∉ text.toList
  names : actionKey ∉ r.pattern.template.names
  unrestricted : r.pattern.template.Unrestricted r.placeholders
  undefaulted : r.pattern.template.Undefaulted r.placeholders
  groupsLast : r.pattern.template.GroupsLast
  delimited : r.pattern.template.Delimited

/-- What parameters need to be read back: they are neither the action nor an override of the verb,
those of placeholders are words, and none of them belongs into a group that is left out. -/
structure Readable (r : Route) (ps : Parameters) : Prop where
  action : actionKey ∉ ps
  override : overrideQuery ∉ ps
  words : ∀ name ∈ r.pattern.template.names, ∀ value,
    ps[name]? = some (some value) → IsWord value.toList
  dropped : r.pattern.template.DroppedValueless ps

/-- The parameters that a match gives back: those with a value, and the action. -/
def given (ps : Parameters) (action : String) : Parameters :=
  (ps.filter fun _ value => value.isSome).insert actionKey (some action)

theorem getElem?_given (ps : Parameters) (action name : String) :
    (given ps action)[name]? =
      if name = actionKey then some (some action) else ((ps[name]?).join).map some := by
  rw [given, Std.ExtTreeMap.getElem?_insert, Std.ExtTreeMap.getElem?_filter']
  simp only [Std.compare_eq_iff_eq, eq_comm (a := actionKey)]
  split
  · rfl
  · cases ps[name]? with
    | none => rfl
    | some value => cases value <;> rfl

/-- Parameters that agree with the values of a reading, and else with the query, are those that
were given. -/
theorem eq_given {t : Template} {qs : Parameters} {vs : List (Option (List Char))} {action : String}
    (haction : actionKey ∉ t.names) (hlen : vs.length = t.captureOrder.length)
    (hagrees : Agrees ps t vs)
    (hnames : ∀ name v, (name, v) ∈ t.values vs →
      qs[name]? = (v.map String.ofList).map some)
    (hother : ∀ name, name ∉ t.names →
      qs[name]? = (seed (.ofList (leftovers t ps)) action)[name]?) : qs = given ps action := by
  refine Std.ExtTreeMap.ext_getElem? fun name => ?_
  rw [getElem?_given]
  by_cases hname : name ∈ t.names
  · have hne : name ≠ actionKey := by
      rintro rfl
      exact haction hname
    rw [← map_fst_values hlen] at hname
    obtain ⟨⟨_, v⟩, hm, rfl⟩ := List.mem_map.mp hname
    rw [if_neg hne, hnames _ v hm, hagrees _ v hm]
  · rw [hother name hname, getElem?_seed, getElem?_ofList_leftovers]
    split
    · rfl
    · rename_i hne
      rw [if_neg (not_or.mpr ⟨hne, hname⟩)]

/-- A URL that a route builds is matched with the action and the parameters it was built for. -/
theorem match_of_build (hr : r.Reversible) (he : r.enabled = true) (hp : r.Readable ps) (v : Verb)
    {action : String} (ha : r.actions.get v = some action) {url : String}
    (hu : r.build? r.handler action ps "/" = some url) :
    ∃ q i, Cli.readRequest url v.name [] none = .ok q ∧ (r.tryMatch q).answer = .ok i ∧
      i.action = action ∧ i.parameters = given ps action := by
  obtain ⟨-, cs, hfill, rfl⟩ := build?_eq_some_iff.mp hu
  obtain ⟨vs, hvs, hagrees⟩ : ∃ vs, r.pattern.template.Reads r.placeholders cs vs ∧
      Agrees ps r.pattern.template vs := exists_reads_of_fill hfill hp.words hp.dropped
  -- the URL is the path that was filled, and the query
  have hslash : "/" = String.ofList r.slashes := by rw [hr.slashes_eq]
  have hmark : '?' ∉ cs := hvs.not_mem hr.literals (by decide +kernel)
  rw [hslash, ← String.ofList_append, ← List.append_assoc, slashes_append_drop hfill]
  let q : Request :=
    { method := v.name, path := .ofList cs, query := .ofList (leftovers r.pattern.template ps) }
  have hpath : q.path.toList = cs := String.toList_ofList
  have hoverride : q.query[overrideQuery]? = none := by
    rw [getElem?_ofList_leftovers, Std.ExtTreeMap.getElem?_eq_none hp.override]
    split <;> rfl
  have hverb : r.actions.forText? (q.verb r.actions) = some action := by
    rw [Request.forText?_verb_of_method rfl Std.ExtTreeMap.getElem?_empty hoverride, ha]
  obtain ⟨i, hi, rfl⟩ := exists_answer he hr.unrestricted
    (required_of_undefaulted hr.undefaulted) hverb (by rwa [hpath])
  refine ⟨q, i, ?_, by rw [answer_tryMatch, hi], rfl, ?_⟩
  · exact congrArg Except.ok (ofTarget_of_leftovers hmark v.name)
  · -- the reading that was matched takes the same values
    obtain ⟨ws, hws, hnames, hother⟩ := exists_reads_of_answer hr.unrestricted hi
    rw [hpath] at hws
    have hvalues := values_eq_of_reads hr.undefaulted hr.groupsLast hr.delimited hvs hws
    refine eq_given hr.names hvs.length_eq hagrees (fun name w hm => ?_) hother
    have hmem : name ∈ r.pattern.template.names :=
      map_fst_values hvs.length_eq ▸ List.mem_map_of_mem hm
    rw [hnames name w (hvalues ▸ hm), hr.undefaulted name hmem]
    cases w <;> rfl

/-- So for a value in the path, a group that is left out, and a value in the query. -/
theorem match_articles : ∃ r q i, ofSettings "/articles/<id>[/<slug>]" [] = .ok r ∧
    Cli.readRequest "/articles/7?page=a+b" "GET" [] none = .ok q ∧ (r.tryMatch q).answer = .ok i ∧
    i.parameters =
      given {("id", some "7"), ("page", some "a b"), ("slug", none)} "read" := by
  obtain ⟨r, hr, hpath, hactions, hrules, henabled, ht⟩ := exists_articles
  have hreversible : r.Reversible := {
    slashes_eq := by
      rw [slashes, hpath]
      decide +kernel
    literals := by
      rw [ht]
      decide +kernel
    names := by
      rw [ht]
      decide +kernel
    unrestricted := by
      rw [hrules]
      exact unrestricted_empty _
    undefaulted := by
      rw [hrules]
      exact undefaulted_empty _
    groupsLast := by
      rw [ht]
      exact ⟨rfl, trivial⟩
    delimited := by
      rw [ht]
      exact ⟨⟨'/', [], rfl, by decide +kernel⟩, ⟨trivial, trivial⟩, trivial⟩ }
  let ps : Parameters := {("id", some "7"), ("page", some "a b"), ("slug", none)}
  have hreadable : r.Readable ps := {
    action := by decide +kernel
    override := by decide +kernel
    words := by
      rw [ht]
      intro name hname value hvalue
      simp only [names, List.append_nil, List.mem_cons, List.not_mem_nil, or_false] at hname
      rcases hname with rfl | rfl
      · have hid : ps["id"]? = some (some "7") := by decide +kernel
        cases hid.symm.trans hvalue
        exact isWord_singleton (c := '7') (by decide +kernel)
      · have hslug : ps["slug"]? = some none := by decide +kernel
        cases hslug.symm.trans hvalue
    dropped := by
      rw [ht]
      refine ⟨fun _ name hname => ?_, trivial, trivial⟩
      rw [List.mem_singleton.mp hname]
      decide +kernel }
  have hbuild : r.build? r.handler "read" ps "/" = some "/articles/7?page=a+b" := by
    rw [build?_eq_some_iff, ht, hactions]
    refine ⟨⟨rfl, ?_⟩, "/articles/7".toList, ?_, ?_⟩ <;> decide +kernel
  have hget : r.actions.get .get = some "read" := by rw [hactions]; rfl
  obtain ⟨q, i, hq, hi, -, hparameters⟩ :=
    match_of_build hreversible henabled hreadable .get hget hbuild
  exact ⟨r, q, i, hr, hq, hi, hparameters⟩

end PathRoute.Route
