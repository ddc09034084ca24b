import Mathlib.Data.Set.Finite.Lemmas
import Mathlib.Data.String.Basic
import PathRoute.Proofs.Config.Building
import PathRoute.Proofs.Route.Building
import PathRoute.Proofs.Text.Reader

/-!
# Actions of a configuration

A table of actions has texts for keys, and several of them may name one verb. The entries are
written in the order of the keys, so that a verb is left with the action of the last entry that
names it, and those of the others are lost.
-/

namespace PathRoute

/-! ## The action that settings give a verb -/

/-- The action that a setting gives a verb. -/
def Setting.actionOf? (v : Verb) : Setting → Option (Option String)
  | .verb w => if w = v then some (some w.defaultAction) else none
  | .action w name => if w = v then some (some name) else none
  | _ => none

/-- Whether a setting is one for a verb. -/
def Setting.givesAction? : Setting → Option Bool
  | .verb _ => some true
  | .action _ _ => some true
  | _ => none

namespace Draft

theorem get_setBy (v : Verb) :
    SetBy (fun d => (d.actions.getD .empty).get v) (Setting.actionOf? v) := by
  intro d s
  cases s with
  | verb w | action w _ =>
    by_cases h : w = v <;> simp [apply, Setting.actionOf?, Actions.enable, h]
  | _ => rfl

theorem isSome_actions_setBy : SetBy (fun d => d.actions.isSome) Setting.givesAction? := by
  intro d s
  cases s <;> rfl

end Draft

namespace Config

variable {c : Config} {s : RouteSpec} {r : Route} {ss : List Setting} {actions : Entries}
  {v : Verb} {text last action : String}

/-! ## Entries that name a verb -/

/-- The keys of a table that name a verb. -/
def naming (actions : Entries) (v : Verb) : Set String :=
  {text | text ∈ actions ∧ Verb.ofText? text = some v}

theorem exists_of_mem (h : text ∈ actions) : ∃ action, actions[text]? = some action :=
  Option.isSome_iff_exists.mp (Std.ExtTreeMap.mem_iff_isSome_getElem?.mp h)

theorem mem_naming_iff : text ∈ naming actions v ↔
    Verb.ofText? text = some v ∧ ∃ action, (text, action) ∈ actions.toList := by
  have hmem : text ∈ actions ↔ ∃ action, (text, action) ∈ actions.toList := by
    simp only [Std.ExtTreeMap.mem_toList_iff_getElem?_eq_some,
      Std.ExtTreeMap.mem_iff_isSome_getElem?, Option.isSome_iff_exists]
  exact (and_congr_left' hmem).trans and_comm

/-- The action of an entry, if it names the verb. -/
def actionFor? (v : Verb) (entry : String × String) : Option (Option String) :=
  if Verb.ofText? entry.1 = some v then some (some entry.2) else none

theorem pairwise_toList (actions : Entries) : actions.toList.Pairwise fun a b => a.1 < b.1 :=
  actions.ordered_keys_toList.imp compare_lt_iff_lt.mp

/-- The last entry for a verb is the one with the greatest key. -/
theorem getLast?_actionFor?_iff :
    (actions.toList.filterMap (actionFor? v)).getLast? = some (some action) ↔
      ∃ last, IsGreatest (naming actions v) last ∧ actions[last]? = some action := by
  rw [List.getLast?_filterMap, List.findSome?_eq_some_iff]
  constructor
  · rintro ⟨later, ⟨last, kept⟩, earlier, hlist, hkept, hlater⟩
    have hsplit : actions.toList = earlier.reverse ++ (last, kept) :: later.reverse := by
      rw [← List.reverse_reverse actions.toList, hlist]
      simp
    obtain ⟨hnames, rfl⟩ : Verb.ofText? last = some v ∧ kept = action := by
      simpa [actionFor?] using hkept
    have hmem : (last, kept) ∈ actions.toList := by simp [hsplit]
    refine ⟨last, ⟨mem_naming_iff.mpr ⟨hnames, kept, hmem⟩, fun other hother => ?_⟩,
      Std.ExtTreeMap.mem_toList_iff_getElem?_eq_some.mp hmem⟩
    obtain ⟨hother, kept', hmem'⟩ := mem_naming_iff.mp hother
    -- what follows in the table names no such verb, and what precedes has a smaller key
    have hsorted := pairwise_toList actions
    rw [hsplit] at hmem' hsorted
    rcases List.mem_append.mp hmem' with hbefore | hafter
    · exact ((List.pairwise_append.mp hsorted).2.2 _ hbefore _ List.mem_cons_self).le
    · rcases List.mem_cons.mp hafter with heq | hafter
      · exact (congrArg Prod.fst heq).le
      · have hnone := hlater _ (List.mem_reverse.mp hafter)
        simp [actionFor?, hother] at hnone
  · rintro ⟨last, ⟨hlast, hgreatest⟩, hkept⟩
    have hmem := Std.ExtTreeMap.mem_toList_iff_getElem?_eq_some.mpr hkept
    obtain ⟨earlier, later, hsplit⟩ := List.append_of_mem hmem
    refine ⟨later.reverse, (last, action), earlier.reverse, by simp [hsplit],
      if_pos hlast.2, fun entry hentry => if_neg fun hnames => ?_⟩
    have hentry := List.mem_reverse.mp hentry
    have hsorted := pairwise_toList actions
    rw [hsplit] at hsorted
    have hlt : last < entry.1 :=
      (List.pairwise_cons.mp (List.pairwise_append.mp hsorted).2.1).1 entry hentry
    refine absurd (hgreatest (mem_naming_iff.mpr ⟨hnames, entry.2, ?_⟩)) hlt.not_ge
    simp [hsplit, hentry]

/-! ## The actions of a route -/

/-- The settings that are for verbs. -/
theorem filterMap_methods {α : Type} {g : Setting → Option α} (methods : List Setting)
    (hother : ∀ x, x.givesAction? = none → g x = none) :
    (settingsWith s methods).filterMap g = methods.filterMap g := by
  have hnone : ∀ xs : List Setting, (∀ x ∈ xs, x.givesAction? = none) → xs.filterMap g = [] :=
    fun xs h => List.filterMap_eq_nil_iff.mpr fun x hx => hother x (h x hx)
  have hparameters := filterMap_parameterSettings (s := s) (g := g) (fun _ _ => hother _ rfl)
    fun _ _ => hother _ rfl
  have hhandler : ∀ x ∈ (s.handler.map Setting.handler).toList, x.givesAction? = none := by
    cases s.handler <;> simp [Setting.givesAction?]
  have hpinned : ∀ x ∈ (s.pinned.map Setting.pinned).toList, x.givesAction? = none := by
    cases s.pinned <;> simp [Setting.givesAction?]
  have hformats : ∀ x ∈ (if s.formats.isEmpty then [] else [Setting.formats ⟨s.formats⟩]),
      x.givesAction? = none := by
    split <;> simp [Setting.givesAction?]
  have henabled : g (.enabled (!s.disabled)) = none := hother _ rfl
  simp only [settingsWith, List.filterMap_cons, List.filterMap_append, henabled, hnone _ hhandler,
    hparameters, hnone _ hformats, hnone _ hpinned, List.nil_append, List.append_nil]

theorem entries_of_settings (h : (Methods.table actions).settings = .ok ss) :
    List.Forall₂ (fun entry x => ∃ v, Verb.ofText? entry.1 = some v ∧ x = .action v entry.2)
      actions.toList ss := by
  refine (mapM_eq_ok_iff.mp h).imp fun entry x hx => ?_
  obtain ⟨text, action⟩ := entry
  cases hv : Verb.ofText? text with
  | none => simp [verb, hv, Except.map] at hx
  | some v =>
    simp only [verb, hv, Except.map, Except.ok.injEq] at hx
    exact ⟨v, rfl, hx.symm⟩

/-- What settings say is what the entries say that they are for. -/
theorem filterMap_eq_of_forall₂ {α β γ : Type} {R : α → β → Prop} {f : α → Option γ}
    {g : β → Option γ} {xs : List α} {ys : List β} (h : List.Forall₂ R xs ys)
    (hfg : ∀ x y, R x y → g y = f x) : ys.filterMap g = xs.filterMap f := by
  induction h with
  | nil => rfl
  | cons hxy _ ih => rw [List.filterMap_cons, List.filterMap_cons, hfg _ _ hxy, ih]

/-- A verb has the action of the last entry that names it. -/
theorem get_eq_some_iff_of_route (h : s.route = .ok r) (hm : s.methods = .table actions)
    (hmem : text ∈ actions) :
    r.actions.get v = some action ↔
      ∃ last, IsGreatest (naming actions v) last ∧ actions[last]? = some action := by
  obtain ⟨methods, hmethods, hbuild⟩ := exists_of_route h
  have hactions := (Draft.made_of_build hbuild).actions_eq
  rw [hm] at hmethods
  have hentries := entries_of_settings hmethods
  have hgiven : (settingsWith s methods).filterMap Setting.givesAction? =
      actions.toList.map fun _ => true := by
    rw [filterMap_methods methods fun _ hx => hx, ← List.filterMap_eq_map]
    refine filterMap_eq_of_forall₂ hentries ?_
    rintro entry _ ⟨v, -, rfl⟩
    rfl
  have hnamed : (settingsWith s methods).filterMap (Setting.actionOf? v) =
      actions.toList.filterMap (actionFor? v) := by
    rw [filterMap_methods methods fun x hx => by
      cases x <;> simp_all [Setting.givesAction?, Setting.actionOf?]]
    refine filterMap_eq_of_forall₂ hentries ?_
    rintro entry _ ⟨w, hw, rfl⟩
    simp [Setting.actionOf?, actionFor?, hw]
  have hlast : actions.toList.getLast? ≠ none := by
    obtain ⟨kept, hkept⟩ := exists_of_mem hmem
    have hentry := Std.ExtTreeMap.mem_toList_iff_getElem?_eq_some.mpr hkept
    exact fun hnil => List.ne_nil_of_mem hentry (List.getLast?_eq_none_iff.mp hnil)
  -- with an entry in the table the verbs do not keep their default actions
  obtain ⟨table, htable⟩ : ∃ table, (Draft.ofSettings (settingsWith s methods)).actions =
      some table := by
    rw [← Option.isSome_iff_exists, Draft.isSome_actions_setBy.ofSettings, hgiven,
      List.getLast?_map]
    cases hlist : actions.toList.getLast? with
    | none => exact absurd hlist hlast
    | some entry => rfl
  have hget := (Draft.get_setBy v).ofSettings (settingsWith s methods)
  simp only [hnamed, htable, Option.getD_some, Option.getD_none, Actions.get_empty] at hget
  rw [hactions, htable, Option.getD_some, hget, ← getLast?_actionFor?_iff]
  cases (actions.toList.filterMap (actionFor? v)).getLast? <;> simp

theorem exists_verb_of_route (h : s.route = .ok r) (hm : s.methods = .table actions)
    (hmem : actions[text]? = some action) : ∃ v, Verb.ofText? text = some v := by
  obtain ⟨methods, hmethods, -⟩ := exists_of_route h
  rw [hm] at hmethods
  have hverbs := (entries_of_settings hmethods).imp
    fun entry x hx => And.intro (Exists.imp (fun _ => And.left) hx) hx
  exact ((List.forall₂_and_left _ _).mp hverbs).1 (text, action)
    (Std.ExtTreeMap.mem_toList_iff_getElem?_eq_some.mpr hmem)

theorem exists_isGreatest (h : text ∈ naming actions v) :
    ∃ last, IsGreatest (naming actions v) last := by
  have hfinite : (naming actions v).Finite :=
    actions.keys.finite_toSet.subset fun text htext => Std.ExtTreeMap.mem_keys.mpr htext.1
  obtain ⟨last, hlast, hgreatest⟩ := Set.exists_max_image _ id hfinite ⟨text, h⟩
  exact ⟨last, hlast, hgreatest⟩

/-- In the routes of a configuration without problems, a verb has the action of the last entry that
names it, and URLs are built for that action. So no entry of a table is lost if and only if all
entries for one verb have one action. -/
theorem action_of_last_entry (h : problems c = []) : ∃ rs, build c = .ok rs ∧
    ∀ (index : Nat) s r actions, c.routes[index]? = some s → rs[index]? = some r →
      s.methods = .table actions →
      (∀ text action, actions[text]? = some action → ∃ v, Verb.ofText? text = some v ∧
        (∃ last, IsGreatest (naming actions v) last ∧ r.actions.get v = actions[last]?) ∧
        (r.actions.get v = some action → ∀ ps base,
          (r.build? r.handler action ps base).isSome = (r.pattern.template.fill ps).isSome)) ∧
      ((∀ text action, actions[text]? = some action → r.actions.forText? text = some action) ↔
        ∀ text ∈ actions.keys, ∀ other ∈ actions.keys,
          Verb.ofText? text = Verb.ofText? other → actions[text]? = actions[other]?) := by
  obtain ⟨rs, hb⟩ := exists_build_of_problems h
  refine ⟨rs, hb, fun index s r actions hs hr hm => ?_⟩
  have hroute := route_of_build hb hs hr
  have hlast : ∀ v last, IsGreatest (naming actions v) last →
      r.actions.get v = actions[last]? := by
    intro v last hgreatest
    obtain ⟨kept, hkept⟩ := exists_of_mem hgreatest.1.1
    rw [hkept, get_eq_some_iff_of_route hroute hm hgreatest.1.1]
    exact ⟨last, hgreatest, hkept⟩
  have hentries : ∀ text action, actions[text]? = some action →
      ∃ v last, Verb.ofText? text = some v ∧ IsGreatest (naming actions v) last := by
    intro text action hentry
    obtain ⟨v, hv⟩ := exists_verb_of_route hroute hm hentry
    have hmem : text ∈ actions := Std.ExtTreeMap.mem_iff_isSome_getElem?.mpr (by rw [hentry]; rfl)
    obtain ⟨last, hgreatest⟩ := exists_isGreatest ⟨hmem, hv⟩
    exact ⟨v, last, hv, hgreatest⟩
  refine ⟨fun text action hentry => ?_, fun hkept => ?_, fun hagree text action hentry => ?_⟩
  · obtain ⟨v, last, hv, hgreatest⟩ := hentries text action hentry
    refine ⟨v, hv, ⟨last, hgreatest, hlast v last hgreatest⟩, fun hget ps base => ?_⟩
    rw [Bool.eq_iff_iff, Route.isSome_build?_iff]
    exact and_iff_right ⟨rfl, Actions.contains_iff.mpr ⟨v, hget⟩⟩
  · intro text htext other hother hsame
    obtain ⟨action, hentry⟩ := exists_of_mem (Std.ExtTreeMap.mem_keys.mp htext)
    obtain ⟨action', hentry'⟩ := exists_of_mem (Std.ExtTreeMap.mem_keys.mp hother)
    have hget := hkept text action hentry
    rw [Actions.forText?, hsame, ← Actions.forText?, hkept other action' hentry'] at hget
    rw [hentry, hentry', hget]
  · obtain ⟨v, last, hv, hgreatest⟩ := hentries text action hentry
    have htext := Std.ExtTreeMap.mem_iff_isSome_getElem?.mpr (by rw [hentry]; rfl)
    rw [Actions.forText?, hv, Option.bind_some, hlast v last hgreatest, ← hentry]
    exact hagree last (Std.ExtTreeMap.mem_keys.mpr hgreatest.1.1) text
      (Std.ExtTreeMap.mem_keys.mpr htext) (hgreatest.1.2.trans hv.symm)

/-- A table that names each of two verbs once, in its own way of writing. -/
theorem action_of_last_entry_store : ∃ rs r, build { routes := [
      { path := "/a", methods := .table {("GET", "list"), (" post", "store")} }] } = .ok rs ∧
    rs[0]? = some r ∧ r.actions.forText? "GET" = some "list" ∧
    r.actions.forText? " post" = some "store" := by
  let actions : Entries := {("GET", "list"), (" post", "store")}
  let c : Config := { routes := [{ path := "/a", methods := .table actions }] }
  have hvalid : problems c = [] := by decide +kernel
  obtain ⟨rs, hb, hroutes⟩ := action_of_last_entry hvalid
  obtain ⟨r, rfl⟩ := List.length_eq_one_iff.mp (routesFrom_eq_ok_iff.mp hb).length_eq.symm
  obtain ⟨-, hkept⟩ := hroutes 0 _ r actions rfl rfl rfl
  have hall := hkept.mpr (by decide +kernel)
  exact ⟨_, r, hb, rfl, hall "GET" "list" (by decide +kernel),
    hall " post" "store" (by decide +kernel)⟩

/-- Of two entries for one verb, the first is lost: its action is no action of the route. -/
theorem action_lost_of_repeated_verb :
    let c : Config := { routes := [
      { path := "/a", methods := .table {("GET", "list"), ("get", "read")} }] }
    problems c = [] ∧ ∃ rs, build c = .ok rs ∧ ∃ r ∈ rs,
      r.actions.forText? "GET" ≠ some "list" ∧ r.build? none "list" ∅ "/" = none := by
  decide +kernel

end Config

end PathRoute
