import PathRoute.Proofs.Template.Filling

/-!
# What a filled template begins with

Which character comes first depends on the groups that are left out before it, so on the parameters.
Here it is told from the template alone whether a slash can come first, for values that are not
empty and do not begin with one.
-/

namespace PathRoute

/-- No value is empty or begins with a slash. -/
def Unslashed (ps : Parameters) : Prop :=
  ∀ name value : String, ps[name]? = some (some value) →
    value ≠ "" ∧ value.toList.head? ≠ some '/'

namespace Template

variable {t inner rest : Template} {ps : Parameters} {cs : List Char}

/-- Some parameters leave nothing of the template. A group with a placeholder of its own goes
without the value of that. -/
def mayVanish : Template → Bool
  | .nil => true
  | .literal text rest => text.isEmpty && rest.mayVanish
  | .placeholder _ _ => false
  | .optional inner rest => (!inner.required.isEmpty || inner.mayVanish) && rest.mayVanish

/-- Some parameters leave a slash at the front of the template. -/
def slashMayLead : Template → Bool
  | .nil => false
  | .literal text rest => text.toList.head? == some '/' || text.isEmpty && rest.slashMayLead
  | .placeholder _ _ => false
  | .optional inner rest =>
    inner.slashMayLead || (!inner.required.isEmpty || inner.mayVanish) && rest.slashMayLead

theorem value_cases (hps : Unslashed ps) {name value : String}
    (h : (ps[name]?).join = some value) : ∃ c cs, value.toList = c :: cs ∧ c ≠ '/' := by
  obtain ⟨hne, hhead⟩ := hps name value (Option.join_eq_some_iff.mp h)
  cases hvalue : value.toList with
  | nil => exact absurd (String.toList_eq_nil_iff.mp hvalue) hne
  | cons c cs =>
    rw [hvalue] at hhead
    exact ⟨c, cs, rfl, by simpa using hhead⟩

/-! ## What is left of a template -/

/-- A group of which nothing is left lacks a value, or may vanish. -/
theorem droppable_of_fill (hfill : (inner.fill ps).getD [] = [])
    (hvanish : inner.fill ps = some [] → inner.mayVanish = true) :
    (!inner.required.isEmpty || inner.mayVanish) = true := by
  cases h : inner.fill ps with
  | none =>
    cases hr : inner.required with
    | nil =>
      obtain ⟨cs, hcs⟩ : ∃ cs, inner.fill ps = some cs := exists_fill (by simp [hr])
      rw [h] at hcs
      cases hcs
    | cons name names => rfl
  | some cs =>
    rw [h, Option.getD_some] at hfill
    rw [hvanish (by rw [h, hfill]), Bool.or_true]

theorem mayVanish_of_fill (hps : Unslashed ps) (h : t.fill ps = some []) :
    t.mayVanish = true := by
  induction t with
  | nil => rfl
  | literal text rest ih =>
    obtain ⟨ds, hds, heq⟩ := Option.map_eq_some_iff.mp h
    obtain ⟨htext, rfl⟩ := List.append_eq_nil_iff.mp heq
    simp [mayVanish, String.toList_eq_nil_iff.mp htext, ih hds]
  | placeholder name rest ih =>
    simp only [fill, Option.bind_eq_bind, Option.bind_eq_some_iff, Option.pure_def,
      Option.some.injEq, List.append_eq_nil_iff] at h
    obtain ⟨value, hvalue, ds, -, hnil, -⟩ := h
    obtain ⟨c, cs, hcons, -⟩ := value_cases hps hvalue
    rw [hnil] at hcons
    cases hcons
  | optional inner rest ihi ihr =>
    obtain ⟨ds, hds, heq⟩ := Option.map_eq_some_iff.mp h
    obtain ⟨hinner, rfl⟩ := List.append_eq_nil_iff.mp heq
    rw [mayVanish, droppable_of_fill hinner ihi, ihr hds, Bool.and_self]

/-- A slash that comes first is one that the template tells of. -/
theorem slashMayLead_of_fill (hps : Unslashed ps) (h : t.fill ps = some cs)
    (hcs : cs.head? = some '/') : t.slashMayLead = true := by
  induction t generalizing cs with
  | nil =>
    cases h
    cases hcs
  | literal text rest ih =>
    obtain ⟨ds, hds, rfl⟩ := Option.map_eq_some_iff.mp h
    cases htext : text.toList with
    | nil =>
      rw [htext] at hcs
      simp [slashMayLead, String.toList_eq_nil_iff.mp htext, ih hds hcs]
    | cons c text' =>
      rw [htext] at hcs
      cases hcs
      simp [slashMayLead, htext]
  | placeholder name rest ih =>
    simp only [fill, Option.bind_eq_bind, Option.bind_eq_some_iff, Option.pure_def,
      Option.some.injEq] at h
    obtain ⟨value, hvalue, ds, -, rfl⟩ := h
    obtain ⟨c, cs, hcons, hne⟩ := value_cases hps hvalue
    rw [hcons] at hcs
    exact absurd (Option.some.inj hcs) hne
  | optional inner rest ihi ihr =>
    obtain ⟨ds, hds, rfl⟩ := Option.map_eq_some_iff.mp h
    cases hinner : (inner.fill ps).getD [] with
    | nil =>
      rw [hinner] at hcs
      have hdrop := droppable_of_fill hinner (mayVanish_of_fill hps)
      rw [slashMayLead, hdrop, ihr hds hcs, Bool.and_self, Bool.or_true]
    | cons c ci =>
      rw [hinner] at hcs
      cases hcs
      cases hfill : inner.fill ps with
      | none =>
        rw [hfill] at hinner
        cases hinner
      | some ci' =>
        rw [hfill, Option.getD_some] at hinner
        rw [slashMayLead, ihi hfill (by rw [hinner]; rfl), Bool.true_or]

/-! ## Parameters that leave a slash -/

/-- Of the template's placeholders just the given ones have a value. -/
def ValuedOnly (given : List String) (ps : Parameters) (t : Template) : Prop :=
  ∀ name ∈ t.names, (ps[name]?).join = if name ∈ given then some "x" else none

/-- Nothing is left of a group that may be dropped where its placeholders have no values. -/
theorem getD_fill_of_droppable (h : (!inner.required.isEmpty || inner.mayVanish) = true)
    (hnone : ∀ name ∈ inner.names, (ps[name]?).join = none)
    (hvanish : inner.mayVanish = true → inner.fill ps = some []) :
    (inner.fill ps).getD [] = [] := by
  cases hr : inner.required with
  | nil =>
    rw [hr] at h
    rw [hvanish h, Option.getD_some]
  | cons name names =>
    have hname : name ∈ inner.required := by rw [hr]; exact List.mem_cons_self
    rw [fill_eq_none hname (hnone name (inner.required_sublist.mem hname)), Option.getD_none]

theorem fill_of_mayVanish (h : t.mayVanish = true)
    (hnone : ∀ name ∈ t.names, (ps[name]?).join = none) : t.fill ps = some [] := by
  induction t with
  | nil => rfl
  | literal text rest ih =>
    simp only [mayVanish, Bool.and_eq_true, String.isEmpty_iff] at h
    simp [fill, h.1, ih h.2 hnone]
  | placeholder name rest ih => cases h
  | optional inner rest ihi ihr =>
    rw [mayVanish, Bool.and_eq_true] at h
    have hinner := fun name hn => hnone name (List.mem_append_left _ hn)
    have hrest := fun name hn => hnone name (List.mem_append_right _ hn)
    rw [fill, ihr h.2 hrest, Option.map_some,
      getD_fill_of_droppable h.1 hinner fun hv => ihi hv hinner, List.append_nil]

theorem ValuedOnly.exists_fill {given : List String} (h : ValuedOnly given ps t)
    (hr : ∀ name ∈ t.required, name ∈ given) : ∃ cs, t.fill ps = some cs := by
  refine Template.exists_fill fun name hname => ?_
  rw [h name (t.required_sublist.mem hname), if_pos (hr name hname)]
  rfl

/-- Where the template tells of a slash, values for some placeholders leave one at the front. -/
theorem exists_fill_of_slashMayLead (h : t.slashMayLead = true) (hn : t.names.Nodup) :
    ∃ given, (∀ name ∈ given, name ∈ t.names) ∧ (∀ name ∈ t.required, name ∈ given) ∧
      ∀ ps, ValuedOnly given ps t → ∃ cs, t.fill ps = some ('/' :: cs) := by
  induction t with
  | nil => cases h
  | placeholder name rest ih => cases h
  | literal text rest ih =>
    simp only [slashMayLead, Bool.or_eq_true, beq_iff_eq, Bool.and_eq_true,
      String.isEmpty_iff] at h
    rcases h with hslash | ⟨rfl, hrest⟩
    · refine ⟨rest.required, fun _ hr => rest.required_sublist.mem hr, fun _ hr => hr,
        fun ps hps => ?_⟩
      have hvalued : ValuedOnly rest.required ps rest := hps
      obtain ⟨ds, hds⟩ := hvalued.exists_fill fun _ hr => hr
      obtain ⟨cs, hcs⟩ := List.head?_eq_some_iff.mp hslash
      exact ⟨cs ++ ds, by rw [fill, hds, hcs]; rfl⟩
    · obtain ⟨given, hnames, hrequired, hfill⟩ := ih hrest hn
      refine ⟨given, hnames, hrequired, fun ps hps => ?_⟩
      obtain ⟨cs, hcs⟩ := hfill ps hps
      exact ⟨cs, by rw [fill, hcs]; rfl⟩
  | optional inner rest ihi ihr =>
    obtain ⟨hni, hnr, hapart⟩ := List.nodup_append.mp hn
    rw [slashMayLead, Bool.or_eq_true, Bool.and_eq_true] at h
    rcases h with hinner | ⟨hdrop, hrest⟩
    · -- the group is kept, with what it needs for a slash at its own front
      obtain ⟨given, hnames, hrequired, hfill⟩ := ihi hinner hni
      refine ⟨given ++ rest.required, fun name hg => ?_, fun name hr => ?_, fun ps hps => ?_⟩
      · rcases List.mem_append.mp hg with hg | hr
        · exact List.mem_append_left _ (hnames name hg)
        · exact List.mem_append_right _ (rest.required_sublist.mem hr)
      · exact List.mem_append_right _ hr
      · have hpi : ValuedOnly given ps inner := by
          intro name hname
          have hnot : name ∉ rest.required := fun hr =>
            hapart name hname name (rest.required_sublist.mem hr) rfl
          rw [hps name (List.mem_append_left _ hname)]
          simp [hnot]
        have hpr : ValuedOnly (given ++ rest.required) ps rest := fun name hname =>
          hps name (List.mem_append_right _ hname)
        obtain ⟨cs, hcs⟩ := hfill ps hpi
        obtain ⟨ds, hds⟩ := hpr.exists_fill fun name hr => List.mem_append_right _ hr
        exact ⟨cs ++ ds, by rw [fill, hcs, hds]; rfl⟩
    · -- the group is dropped, since none of its placeholders has a value
      obtain ⟨given, hnames, hrequired, hfill⟩ := ihr hrest hnr
      refine ⟨given, fun name hg => List.mem_append_right _ (hnames name hg), hrequired,
        fun ps hps => ?_⟩
      have hnone : ∀ name ∈ inner.names, (ps[name]?).join = none := by
        intro name hname
        have hnot : name ∉ given := fun hg => hapart name hname name (hnames name hg) rfl
        rw [hps name (List.mem_append_left _ hname), if_neg hnot]
      obtain ⟨cs, hcs⟩ := hfill ps fun name hname => hps name (List.mem_append_right _ hname)
      refine ⟨cs, ?_⟩
      rw [fill, hcs, getD_fill_of_droppable hdrop hnone fun hv => fill_of_mayVanish hv hnone]
      rfl

/-- There are parameters with a value for just the given placeholders, which is no slash. -/
theorem exists_valuedOnly (given : List String) (t : Template) :
    ∃ ps, Unslashed ps ∧ ValuedOnly given ps t := by
  have hlookup : ∃ ps : Parameters, ∀ name : String,
      ps[name]? = if name ∈ given then some (some "x") else none := by
    induction given with
    | nil => exact ⟨∅, fun name => by simp⟩
    | cons first given ih =>
      obtain ⟨ps, hps⟩ := ih
      refine ⟨ps.insert first (some "x"), fun name => ?_⟩
      rw [Std.ExtTreeMap.getElem?_insert, hps]
      by_cases heq : first = name
      · simp [heq]
      · simp [heq, Ne.symm heq]
  obtain ⟨ps, hps⟩ := hlookup
  refine ⟨ps, fun name value hvalue => ?_, fun name _ => ?_⟩
  · rw [hps] at hvalue
    split at hvalue
    · cases hvalue
      decide
    · cases hvalue
  · rw [hps]
    split <;> rfl

/-- A slash may come first just in the templates that tell of one. -/
theorem slashMayLead_iff (hn : t.names.Nodup) :
    t.slashMayLead = true ↔ ∃ ps cs, Unslashed ps ∧ t.fill ps = some ('/' :: cs) := by
  constructor
  · intro h
    obtain ⟨given, -, -, hfill⟩ := exists_fill_of_slashMayLead h hn
    obtain ⟨ps, hps, hgiven⟩ := exists_valuedOnly given t
    obtain ⟨cs, hcs⟩ := hfill ps hgiven
    exact ⟨ps, cs, hps, hcs⟩
  · rintro ⟨ps, cs, hps, hcs⟩
    exact slashMayLead_of_fill hps hcs rfl

end Template

end PathRoute
