import PathRoute.Proofs.Route.Settings
import PathRoute.Proofs.Text.Reader

/-!
# Settings in another order

Settings for different things can be given in any order: two neighbours that write different slots
of a draft can change places, and so a route stays the same under every rearrangement in which the
settings for one slot keep their order. The requirement and the default of a placeholder are slots
of their own, though they share an entry.
-/

namespace PathRoute

/-- What a setting writes. The formats are one slot, and so are the observers. -/
inductive Slot where
  | handler
  | action (v : Verb)
  | requirement (name : String)
  | default (name : String)
  | formats
  | pinned
  | enabled
  | observers
  deriving DecidableEq, Repr

namespace Setting

def slot : Setting → Slot
  | .handler _ => .handler
  | .verb v | .action v _ => .action v
  | .requirement name _ => .requirement name
  | .default name _ => .default name
  | .format _ | .formats _ => .formats
  | .pinned _ => .pinned
  | .enabled _ => .enabled
  | .observer _ => .observers

/-- The requirement that a setting gives a placeholder. -/
def requirementOf? (name : String) : Setting → Option String
  | .requirement other text => if other = name then some text else none
  | _ => none

/-- The default that a setting gives a placeholder. -/
def defaultOf? (name : String) : Setting → Option (Option String)
  | .default other value => if other = name then some (some value) else none
  | _ => none

/-- Whether a setting is one for a placeholder. -/
def rules? (name : String) (s : Setting) : Option Bool :=
  if s.slot = .requirement name ∨ s.slot = .default name then some true else none

end Setting

/-- The same settings in another order, in which those for one slot follow each other as before. -/
structure Rearranged (ss ss' : List Setting) : Prop where
  perm : ss.Perm ss'
  inOrder : ∀ s ∈ ss, ss.filter (·.slot = s.slot) = ss'.filter (·.slot = s.slot)

/-! ## Neighbours that change places -/

theorem Actions.set_comm {v w : Verb} (h : v ≠ w) (t : Actions) (a b : String) :
    (t.set v a).set w b = (t.set w b).set v a := by
  have hindex : (v.index : Nat) ≠ w.index := fun heq => h (Verb.index_inj.mp (Fin.ext heq))
  rw [set, set, set, set, Vector.set_comm _ _ hindex]

namespace Placeholders

variable {name other : String} (ps : Placeholders) (a b : String)

theorem getElem?_setRequirement : (ps.setRequirement name a)[other]? =
    if name = other then some { ps.rules name with requirement := a } else ps[other]? := by
  simp only [setRequirement, Std.ExtTreeMap.getElem?_insert, Std.compare_eq_iff_eq]

theorem getElem?_setDefault : (ps.setDefault name a)[other]? =
    if name = other then some { ps.rules name with default := some a } else ps[other]? := by
  simp only [setDefault, Std.ExtTreeMap.getElem?_insert, Std.compare_eq_iff_eq]

theorem setRequirement_comm (h : name ≠ other) :
    (ps.setRequirement name a).setRequirement other b =
      (ps.setRequirement other b).setRequirement name a := by
  refine Std.ExtTreeMap.ext_getElem? fun k => ?_
  simp only [getElem?_setRequirement, rules_setRequirement, if_neg h, if_neg h.symm]
  grind

theorem setDefault_comm (h : name ≠ other) :
    (ps.setDefault name a).setDefault other b = (ps.setDefault other b).setDefault name a := by
  refine Std.ExtTreeMap.ext_getElem? fun k => ?_
  simp only [getElem?_setDefault, rules_setDefault, if_neg h, if_neg h.symm]
  grind

/-- Requirements and defaults do not disturb each other, not even for one placeholder. -/
theorem setDefault_setRequirement :
    (ps.setRequirement name a).setDefault other b =
      (ps.setDefault other b).setRequirement name a := by
  refine Std.ExtTreeMap.ext_getElem? fun k => ?_
  simp only [getElem?_setRequirement, getElem?_setDefault, rules_setRequirement, rules_setDefault]
  grind

end Placeholders

namespace Draft

variable {s t : Setting} {ss ss' front back : List Setting}

/-- Settings for different slots can change places. -/
theorem apply_comm (h : s.slot ≠ t.slot) (d : Draft) :
    (d.apply s).apply t = (d.apply t).apply s := by
  cases s with
  | verb v | action v a =>
    cases t with
    | verb w | action w b =>
      have hne : v ≠ w := fun heq => h (congrArg Slot.action heq)
      simp only [apply, Actions.enable, Option.getD_some, Actions.set_comm hne]
    | _ => rfl
  | requirement name a =>
    cases t with
    | requirement other b =>
      have hne : name ≠ other := fun heq => h (congrArg Slot.requirement heq)
      simp only [apply, Placeholders.setRequirement_comm _ _ _ hne]
    | default other b => simp only [apply, Placeholders.setDefault_setRequirement]
    | _ => rfl
  | default name a =>
    cases t with
    | requirement other b => simp only [apply, Placeholders.setDefault_setRequirement]
    | default other b =>
      have hne : name ≠ other := fun heq => h (congrArg Slot.default heq)
      simp only [apply, Placeholders.setDefault_comm _ _ _ hne]
    | _ => rfl
  | _ => cases t <;> first | rfl | exact absurd rfl h

/-- A setting can be given before others that write no slot of it. -/
theorem foldl_apply_move (h : ∀ t ∈ front, t.slot ≠ s.slot) (d : Draft) :
    (front ++ s :: back).foldl apply d = (s :: (front ++ back)).foldl apply d := by
  induction front generalizing d with
  | nil => rfl
  | cons t front ih =>
    obtain ⟨ht, hfront⟩ := List.forall_mem_cons.mp h
    rw [List.cons_append, List.foldl_cons, ih hfront, List.foldl_cons, apply_comm ht]
    rfl

end Draft

theorem Rearranged.exists_cons {s : Setting} {ss ss' : List Setting}
    (h : Rearranged (s :: ss) ss') : ∃ front back, ss' = front ++ s :: back ∧
      (∀ t ∈ front, t.slot ≠ s.slot) ∧ Rearranged ss (front ++ back) := by
  have hslot := h.inOrder s List.mem_cons_self
  rw [List.filter_cons_of_pos (by simp), eq_comm, List.filter_eq_cons_iff] at hslot
  obtain ⟨front, back, rfl, hfront, -, hback⟩ := hslot
  refine ⟨front, back, rfl, by simpa using hfront, ?_, fun t ht => ?_⟩
  · exact (h.perm.trans List.perm_middle).cons_inv
  · have hkept := h.inOrder t (List.mem_cons_of_mem _ ht)
    by_cases hst : s.slot = t.slot
    · have hnone : front.filter (·.slot = s.slot) = [] := by
        simpa [List.filter_eq_nil_iff] using hfront
      rw [← hst] at hkept ⊢
      simpa [hnone] using hkept
    · simpa [List.filter_cons, hst] using hkept

namespace Draft

theorem foldl_apply_rearranged {ss ss' : List Setting} (h : Rearranged ss ss') (d : Draft) :
    ss.foldl apply d = ss'.foldl apply d := by
  induction ss generalizing ss' d with
  | nil => rw [List.nil_perm.mp h.perm]
  | cons s ss ih =>
    obtain ⟨front, back, rfl, hfront, hrest⟩ := h.exists_cons
    rw [foldl_apply_move hfront, List.foldl_cons, List.foldl_cons, ih hrest]

/-! ## The rules for a placeholder -/

theorem requirement_setBy (name : String) :
    SetBy (fun d => (d.placeholders.rules name).requirement) (Setting.requirementOf? name) := by
  intro d s
  cases s with
  | requirement other text | default other text =>
    by_cases h : other = name <;> simp [apply, Setting.requirementOf?, h]
  | _ => rfl

theorem default_setBy (name : String) :
    SetBy (fun d => (d.placeholders.rules name).default) (Setting.defaultOf? name) := by
  intro d s
  cases s with
  | requirement other text | default other text =>
    by_cases h : other = name <;> simp [apply, Setting.defaultOf?, h]
  | _ => rfl

theorem isSome_rules_setBy (name : String) :
    SetBy (fun d => (d.placeholders[name]?).isSome) (Setting.rules? name) := by
  intro d s
  cases s with
  | requirement other text | default other text =>
    by_cases h : other = name <;> simp [apply, Setting.rules?, Setting.slot, h,
      Placeholders.getElem?_setRequirement, Placeholders.getElem?_setDefault]
  | _ => rfl

/-- A placeholder has an entry once a requirement or a default has been set for it. -/
theorem mem_placeholders_iff (ss : List Setting) (name : String) :
    name ∈ (ofSettings ss).placeholders ↔
      ∃ s ∈ ss, s.slot = .requirement name ∨ s.slot = .default name := by
  have hrules : ∀ s b, Setting.rules? name s = some b →
      b = true ∧ (s.slot = .requirement name ∨ s.slot = .default name) := by
    intro s b h
    rw [Setting.rules?, Option.ite_none_right_eq_some] at h
    exact ⟨(Option.some.inj h.2).symm, h.1⟩
  rw [Std.ExtTreeMap.mem_iff_isSome_getElem?, (isSome_rules_setBy name).ofSettings]
  cases hlast : (ss.filterMap (Setting.rules? name)).getLast? with
  | none =>
    have hnone := List.filterMap_eq_nil_iff.mp (List.getLast?_eq_none_iff.mp hlast)
    refine iff_of_false (by simp) fun ⟨s, hs, hslot⟩ => ?_
    simpa [Setting.rules?, hslot] using hnone s hs
  | some b =>
    obtain ⟨s, hs, hb⟩ := List.mem_filterMap.mp (List.mem_of_getLast? hlast)
    obtain ⟨rfl, hslot⟩ := hrules s b hb
    exact iff_of_true rfl ⟨s, hs, hslot⟩

/-- The requirement of a placeholder is the last one that was set, and so is its default. -/
theorem rules_ofSettings (ss : List Setting) (name : String) :
    (ofSettings ss).placeholders.rules name =
      { requirement := ((ss.filterMap (Setting.requirementOf? name)).getLast?).getD "\\w+"
        default := ((ss.filterMap (Setting.defaultOf? name)).getLast?).getD none } := by
  have hrequirement := (requirement_setBy name).ofSettings ss
  have hdefault := (default_setBy name).ofSettings ss
  have hnone : ({} : Draft).placeholders.rules name = {} := by simp [Placeholders.rules]
  rw [hnone] at hrequirement hdefault
  cases hrules : (ofSettings ss).placeholders.rules name with
  | mk requirement default =>
    rw [hrules] at hrequirement hdefault
    exact (Placeholder.mk.injEq ..).mpr ⟨hrequirement, hdefault⟩

end Draft

/-- Settings can be rearranged as long as those for one slot keep their order: the route is the
same, or the reason why there is none. The rules for each placeholder are the last requirement and
the last default that were set for it, whatever is set for others or between them. -/
theorem Route.ofSettings_rearranged {path : String} {ss ss' : List Setting}
    (h : Rearranged ss ss') :
    Route.ofSettings path ss = Route.ofSettings path ss' ∧
      (∀ name, ((Draft.ofSettings ss).placeholders.rules name =
          { requirement := ((ss.filterMap (Setting.requirementOf? name)).getLast?).getD "\\w+"
            default := ((ss.filterMap (Setting.defaultOf? name)).getLast?).getD none }) ∧
        (name ∈ (Draft.ofSettings ss).placeholders ↔
          ∃ s ∈ ss, s.slot = .requirement name ∨ s.slot = .default name)) ∧
      ∀ r, Route.ofSettings path ss = .ok r →
        r.placeholders = (Draft.ofSettings ss).placeholders := by
  refine ⟨?_, fun name => ⟨Draft.rules_ofSettings ss name, Draft.mem_placeholders_iff ss name⟩,
    fun r hr => ?_⟩
  · rw [ofSettings, ofSettings, Draft.ofSettings, Draft.ofSettings,
      Draft.foldl_apply_rearranged h]
  · exact (Draft.made_of_build hr).placeholders_eq

/-- A requirement between two settings of a default, and a verb that resets an action, in two
orders: the default is the last one in both, and the requirement stays. -/
theorem Route.ofSettings_rearranged_interleaved :
    ∃ r, Route.ofSettings "/pages/<id>"
          [.default "id" "1", .requirement "id" "[0-9]+", .action .get "show", .default "id" "7",
            .verb .get, .enabled false] = .ok r ∧
      Route.ofSettings "/pages/<id>"
          [.enabled false, .action .get "show", .default "id" "1", .verb .get, .default "id" "7",
            .requirement "id" "[0-9]+"] = .ok r ∧
      r.placeholders.rules "id" = { requirement := "[0-9]+", default := some "7" } ∧
      r.pattern.expression = "^/pages/([0-9]+)?$" := by
  have h : Rearranged
      [.default "id" "1", .requirement "id" "[0-9]+", .action .get "show", .default "id" "7",
        .verb .get, .enabled false]
      [.enabled false, .action .get "show", .default "id" "1", .verb .get, .default "id" "7",
        .requirement "id" "[0-9]+"] := ⟨by decide, by decide⟩
  obtain ⟨hroute, hrules, hplaceholders⟩ := @Route.ofSettings_rearranged "/pages/<id>" _ _ h
  have hbuilt : ∃ r, Route.ofSettings "/pages/<id>"
      [.default "id" "1", .requirement "id" "[0-9]+", .action .get "show", .default "id" "7",
        .verb .get, .enabled false] = .ok r ∧ r.pattern.expression = "^/pages/([0-9]+)?$" := by
    decide +kernel
  obtain ⟨r, hr, hexpression⟩ := hbuilt
  refine ⟨r, hr, hroute ▸ hr, ?_, hexpression⟩
  rw [hplaceholders r hr, (hrules "id").1]
  rfl

end PathRoute
