import PathRoute.Proofs.Pattern.Alignment
import PathRoute.Proofs.Regex.Loosening
import PathRoute.Proofs.Template.Parsing

/-!
# What a default does to an expression

A template that compiles has the expression that its items tell, one part after the other, with no
group but theirs: `regex_eq_items`. To give a placeholder a default makes its group optional and
changes nothing else: `loosened_of_compile`. So where that group captures, all groups capture what
they captured without the default: `captures?_of_loosened`.
-/

namespace PathRoute

open Regex

/-- The same rules but for a default that one placeholder has been given. -/
structure Placeholders.Defaulted (name : String) (ps ps' : Placeholders) : Prop where
  requirement : ∀ other, (ps'.rules other).requirement = (ps.rules other).requirement
  default : ∀ other, other ≠ name → (ps'.rules other).default = (ps.rules other).default
  isSome : (ps'.rules name).default.isSome = true

namespace Regex

variable {c : Regex} {g : Nat} {as bs cs : List Regex}

/-- A list of expressions in which a group of one is made optional. -/
inductive LoosenedIn (g : Nat) (c : Regex) : List Regex → List Regex → Prop where
  | here {a a' : Regex} {as : List Regex} :
      Loosened g c a a' → (∀ b ∈ as, g ∉ b.groups) → LoosenedIn g c (a :: as) (a' :: as)
  | there {a : Regex} {as as' : List Regex} :
      g ∉ a.groups → LoosenedIn g c as as' → LoosenedIn g c (a :: as) (a :: as')

namespace LoosenedIn

theorem append_left (has : ∀ a ∈ as, g ∉ a.groups) (h : LoosenedIn g c bs cs) :
    LoosenedIn g c (as ++ bs) (as ++ cs) := by
  induction as with
  | nil => exact h
  | cons a as ih =>
    obtain ⟨ha, has⟩ := List.forall_mem_cons.mp has
    exact .there ha (ih has)

theorem append_right (h : LoosenedIn g c bs cs) (has : ∀ a ∈ as, g ∉ a.groups) :
    LoosenedIn g c (bs ++ as) (cs ++ as) := by
  induction h with
  | here h hbs => exact .here h fun b hb => (List.mem_append.mp hb).elim (hbs b) (has b)
  | there ha _ ih => exact .there ha ih

theorem seqs (h : LoosenedIn g c as bs) : Loosened g c (seqs as) (seqs bs) := by
  induction h with
  | @here a a' as h has =>
    cases as with
    | nil => exact h
    | cons b as =>
      refine .seqLeft h fun hg => ?_
      obtain ⟨x, hx, hg⟩ := mem_groups_seqs.mp hg
      exact has x hx hg
  | @there a as as' ha h ih =>
    cases h with
    | here => exact .seqRight ha ih
    | there => exact .seqRight ha ih

end LoosenedIn

end Regex

namespace Template

variable {ps ps' : Placeholders} {t : Template} {name : String} {n k B : Nat} {rs : List Regex}
  {gs : List Nat}

/-! ## The items of a template -/

/-- What the requirement of a placeholder is read as, without groups. -/
def value (ps : Placeholders) (name : String) : Regex :=
  ((Regex.parse (requirement ps name)).toOption.getD .empty).erase

/-- The expressions for the items of a template, where `n` groups have been opened before. -/
def items (ps : Placeholders) : Template → (n : Nat) → List Regex
  | .nil, _ => []
  | .literal text rest, n => text.toList.map single ++ rest.items ps n
  | .placeholder name rest, n =>
    slot ps name (.group (n + 1) (value ps name)) :: rest.items ps (n + 1)
  | .optional inner rest, n =>
    opt true (.group (n + 1) (seqs (inner.items ps (n + 1)))) ::
      rest.items ps (n + 1 + inner.captureOrder.length)

theorem groups_items (t : Template) (n : Nat) :
    ∀ r ∈ t.items ps n, ∀ g ∈ r.groups, n < g ∧ g ≤ n + t.captureOrder.length := by
  induction t generalizing n with
  | nil => simp [items]
  | literal text rest ih =>
    intro r hr g hg
    rcases List.mem_append.mp hr with hr | hr
    · obtain ⟨c, -, rfl⟩ := List.mem_map.mp hr
      cases hg
    · exact ih n r hr g hg
  | placeholder name rest ih =>
    intro r hr g hg
    rw [captureOrder, List.length_cons]
    rcases List.mem_cons.mp hr with rfl | hr
    · rw [groups_slot, groups, value, groups_erase, List.mem_singleton] at hg
      omega
    · have := ih (n + 1) r hr g hg
      omega
  | optional inner rest ihi ihr =>
    intro r hr g hg
    rw [captureOrder, List.length_cons, List.length_append]
    rcases List.mem_cons.mp hr with rfl | hr
    · rw [groups_opt, groups, List.mem_cons, mem_groups_seqs] at hg
      rcases hg with rfl | ⟨a, ha, hg⟩
      · omega
      · have := ihi (n + 1) a ha g hg
        omega
    · have := ihr _ r hr g hg
      omega

/-- Without groups there is nothing to count. -/
theorem items_of_captureOrder_nil (h : t.captureOrder = []) (m n : Nat) :
    t.items ps m = t.items ps n := by
  induction t with
  | nil => rfl
  | literal text rest ih => rw [items, items, ih h]
  | placeholder | optional => cases h

namespace Written

theorem add_length_le (h : Written ps t n rs gs k) : n + t.captureOrder.length ≤ k := by
  induction h with
  | nil => exact Nat.le_refl _
  | literal _ ih => exact ih
  | placeholder _ _ _ hk _ ih =>
    rw [captureOrder, List.length_cons]
    omega
  | optional _ _ ihi ihr =>
    rw [captureOrder, List.length_cons, List.length_append]
    omega

/-- The entries have groups of their own, so a bound on these leaves room for all of them. -/
theorem add_length_le_of_bound (h : Written ps t n rs gs k) (ht : t.captureOrder ≠ [])
    (hB : ∀ r ∈ rs, ∀ g ∈ r.groups, g ≤ B) : n + t.captureOrder.length ≤ B := by
  induction h with
  | nil => exact absurd rfl ht
  | literal _ ih => exact ih ht fun r hr => hB r (List.mem_append_right _ hr)
  | @placeholder name rest n k l a b rs gs _ _ _ hk _ ih =>
    obtain ⟨hfirst, hrest⟩ := List.forall_mem_cons.mp hB
    have hn : n + 1 ≤ B := hfirst _ (by rw [groups_slot]; exact List.mem_cons_self)
    rw [captureOrder, List.length_cons]
    by_cases hnil : rest.captureOrder = []
    · rw [hnil]
      exact hn
    · have := ih hnil hrest
      omega
  | @optional inner rest n k l rs rs' gs gs' hi _ ihi ihr =>
    obtain ⟨hfirst, hrest⟩ := List.forall_mem_cons.mp hB
    rw [groups_opt, groups] at hfirst
    obtain ⟨hn, hinner⟩ := List.forall_mem_cons.mp hfirst
    have hle := hi.add_length_le
    rw [captureOrder, List.length_cons, List.length_append]
    by_cases hnil : rest.captureOrder = []
    · rw [hnil]
      by_cases hnil' : inner.captureOrder = []
      · rw [hnil']
        exact hn
      · have := ihi hnil' fun r hr g hg => hinner g (mem_groups_seqs.mpr ⟨r, hr, hg⟩)
        simp only [List.length_nil]
        omega
    · have := ihr hnil hrest
      omega

/-- Where no group has a number beyond the count of the entries, none has been opened unseen. -/
theorem captureOrder_nil_or_eq (h : Written ps t k rs gs B) (hn : n ≤ k)
    (hB : ∀ r ∈ rs, ∀ g ∈ r.groups, g ≤ n + t.captureOrder.length) :
    t.captureOrder = [] ∨ k = n := by
  by_cases hnil : t.captureOrder = []
  · exact .inl hnil
  · have := h.add_length_le_of_bound hnil hB
    exact .inr (by omega)

/-- Where no group has a number beyond the count of the entries, there are no groups but theirs. -/
theorem eq_items (h : Written ps t n rs gs k)
    (hB : ∀ r ∈ rs, ∀ g ∈ r.groups, g ≤ n + t.captureOrder.length) : rs = t.items ps n := by
  induction h with
  | nil => rfl
  | literal _ ih => rw [items, ih fun r hr => hB r (List.mem_append_right _ hr)]
  | @placeholder name rest n k l a b rs gs hb herase ha hk hw ih =>
    rw [captureOrder, List.length_cons, ← Nat.add_assoc, Nat.add_right_comm] at hB
    obtain ⟨hfirst, hrest⟩ := List.forall_mem_cons.mp hB
    rw [groups_slot, groups] at hfirst
    have hroom := hw.captureOrder_nil_or_eq hk hrest
    have hgroups : a.groups = [] := by
      refine List.eq_nil_iff_forall_not_mem.mpr fun g hg => ?_
      have hwithin := ha g hg
      have hle := hfirst g (List.mem_cons_of_mem _ hg)
      rcases hroom with hnil | rfl
      · rw [hnil, List.length_nil] at hle
        omega
      · omega
    have hvalue : a = value ps name := by
      rw [value, hb, ← erase_eq_self hgroups, herase]
      rfl
    have hitems : rs = rest.items ps k := ih fun r hr g hg => by
      have := hrest r hr g hg
      omega
    rw [items, hvalue, hitems]
    rcases hroom with hnil | rfl
    · rw [items_of_captureOrder_nil hnil k (n + 1)]
    · rfl
  | @optional inner rest n k l rs rs' gs gs' hi hr ihi ihr =>
    rw [captureOrder, List.length_cons, List.length_append, ← Nat.add_assoc, ← Nat.add_assoc,
      Nat.add_right_comm, Nat.add_right_comm n] at hB
    obtain ⟨hfirst, hrest⟩ := List.forall_mem_cons.mp hB
    rw [groups_opt, groups] at hfirst
    have hroom := hr.captureOrder_nil_or_eq hi.add_length_le hrest
    have hinner : rs = inner.items ps (n + 1) := ihi fun r hr g hg => by
      have hmem := mem_groups_seqs.mpr ⟨r, hr, hg⟩
      have hbound := hfirst g (List.mem_cons_of_mem _ hmem)
      have hwithin := hi.groups_within r hr g hg
      rcases hroom with hnil | rfl
      · rw [hnil, List.length_nil] at hbound
        omega
      · omega
    have hitems : rs' = rest.items ps k := ihr fun r hr g hg => by
      have := hrest r hr g hg
      have := hi.add_length_le
      omega
    rw [items, hinner, hitems]
    rcases hroom with hnil | rfl
    · rw [items_of_captureOrder_nil hnil k (n + 1 + inner.captureOrder.length)]
    · rfl

end Written

/-! ## A default -/

/-- The expressions depend on the requirements and on which placeholders have defaults. -/
theorem items_congr
    (h : ∀ name ∈ t.names, (ps'.rules name).requirement = (ps.rules name).requirement ∧
      (ps'.rules name).default.isSome = (ps.rules name).default.isSome) (n : Nat) :
    t.items ps' n = t.items ps n := by
  induction t generalizing n with
  | nil => rfl
  | literal text rest ih => rw [items, items, ih h]
  | placeholder name rest ih =>
    obtain ⟨⟨hreq, hdef⟩, hrest⟩ := List.forall_mem_cons.mp h
    rw [items, items, ih hrest, slot, slot, value, value, requirement, requirement, hreq, hdef]
  | optional inner rest ihi ihr =>
    rw [items, items, ihi fun m hm => h m (List.mem_append_left _ hm),
      ihr fun m hm => h m (List.mem_append_right _ hm)]

theorem mem_captureOrder : some name ∈ t.captureOrder ↔ name ∈ t.names := by
  simp [names_eq]

theorem value_of_defaulted (h : ps.Defaulted name ps') (other : String) :
    value ps' other = value ps other := by
  rw [value, value, requirement, requirement, h.requirement]

/-- Where the placeholder does not stand nothing changes. -/
theorem items_of_not_mem (h : ps.Defaulted name ps') (hnot : name ∉ t.names) (n : Nat) :
    t.items ps' n = t.items ps n := by
  refine items_congr (fun other hother => ⟨h.requirement other, ?_⟩) n
  rw [h.default other]
  rintro rfl
  exact hnot hother

/-- The group of a placeholder that has no default becomes optional by one. -/
theorem loosenedIn_items (h : ps.Defaulted name ps') (hnone : (ps.rules name).default = none)
    (hn : t.names.Nodup) (hname : name ∈ t.names) {n g : Nat}
    (hg : g = n + (t.captureOrder.idxOf (some name) + 1)) :
    LoosenedIn g (value ps name) (t.items ps n) (t.items ps' n) := by
  induction t generalizing n with
  | nil => cases hname
  | literal text rest ih =>
    refine .append_left (fun a ha => ?_) (ih hn hname hg)
    obtain ⟨c, -, rfl⟩ := List.mem_map.mp ha
    exact List.not_mem_nil
  | placeholder other rest ih =>
    obtain ⟨hnot, hn⟩ := List.nodup_cons.mp hn
    rw [items, items, slot, slot, value_of_defaulted h]
    by_cases heq : other = name
    · subst heq
      rw [captureOrder, List.idxOf_cons_self, Nat.zero_add] at hg
      subst hg
      rw [items_of_not_mem h hnot, hnone, if_neg (by simp), if_pos h.isSome]
      refine .here (.here (by rw [value, groups_erase]; exact List.not_mem_nil)) fun r hr hg => ?_
      have := groups_items rest (n + 1) r hr _ hg
      omega
    · have hmem : name ∈ rest.names := (List.mem_cons.mp hname).resolve_left (Ne.symm heq)
      rw [captureOrder, List.idxOf_cons_ne _ (by simpa using heq)] at hg
      rw [h.default other heq]
      refine .there ?_ (ih hn hmem (by omega))
      change g ∉ (slot ps other (.group (n + 1) (value ps other))).groups
      rw [groups_slot, groups, value, groups_erase, List.mem_singleton]
      omega
  | optional inner rest ihi ihr =>
    obtain ⟨hni, hnr, hdisj⟩ := List.nodup_append.mp hn
    rw [captureOrder, List.idxOf_cons_ne _ (by simp), List.idxOf_append] at hg
    by_cases hmem : name ∈ inner.names
    · have hnot : name ∉ rest.names := fun hr => hdisj name hmem name hr rfl
      have hlt := List.idxOf_lt_length_of_mem (mem_captureOrder.mpr hmem)
      rw [if_pos (mem_captureOrder.mpr hmem)] at hg
      have hinner := ihi hni hmem (n := n + 1) (by omega)
      rw [items, items, items_of_not_mem h hnot]
      refine .here (.altFirst (.group (by omega) hinner.seqs) List.not_mem_nil) fun r hr hg => ?_
      have := groups_items rest _ r hr _ hg
      omega
    · have hmemr : name ∈ rest.names := (List.mem_append.mp hname).resolve_left hmem
      rw [if_neg (mt mem_captureOrder.mp hmem)] at hg
      rw [items, items, items_of_not_mem h hmem]
      refine .there (fun hmem => ?_) (ihr hnr hmemr (by omega))
      rw [groups_opt, groups, List.mem_cons, mem_groups_seqs] at hmem
      rcases hmem with heq | ⟨a, ha, hmem⟩
      · omega
      · have := groups_items inner _ a ha _ hmem
        omega

end Template

namespace Pattern

variable {path name : String} {ps ps' : Placeholders} {p p' : Pattern}

/-- A compiled template has the expression that its items tell. -/
theorem regex_eq_items (h : compile path ps = .ok p) (ht : p.template.Closed ps) :
    p.regex = seqs (.look .textStart :: (p.template.items ps 0 ++ [.look .textEnd])) := by
  obtain ⟨rs, gs, k, hw, hregex⟩ := exists_written_of_compile h ht
  rw [hregex, hw.eq_items]
  simpa only [Nat.zero_add] using le_length_of_mem_groups h hregex

/-- With a default for a placeholder the expression is the same but that its group is optional. -/
theorem loosened_of_compile (h : compile path ps = .ok p) (h' : compile path ps' = .ok p')
    (ht : p.template.Closed ps) (hps : ps.Defaulted name ps')
    (hnone : (ps.rules name).default = none) (hname : name ∈ p.names) :
    Loosened (p.captureOrder.idxOf (some name) + 1) (Template.value ps name) p.regex p'.regex := by
  have hc := compiled_of_compile h
  have htemplate : p'.template = p.template :=
    Except.ok.inj ((compiled_of_compile h').parse_path.symm.trans hc.parse_path)
  have ht' : p'.template.Closed ps' := by
    intro other hother
    rw [htemplate] at hother
    rw [Template.requirement, hps.requirement]
    exact ht other hother
  have hn : p.template.names.Nodup := (Template.parsed_of_parse hc.parse_path).names_nodup
  rw [hc.names_eq] at hname
  have hitems := Template.loosenedIn_items hps hnone hn hname (Nat.zero_add _).symm
  rw [hc.captureOrder_eq, regex_eq_items h ht, regex_eq_items h' ht', htemplate]
  exact (LoosenedIn.there List.not_mem_nil (hitems.append_right (by simp [groups]))).seqs

/-- Where the group of the placeholder captures, the default changes no capture. -/
theorem captures?_of_loosened {g : Nat} {c : Regex} (h : Loosened g c p.regex p'.regex)
    (hg : g ≠ 0) {target : String} {texts : List (Option String)}
    (hc : p'.captures? target = some texts) {text : String} (ht : texts[g]? = some (some text)) :
    p.captures? target = some texts := by
  obtain ⟨places, hplaces, rfl⟩ := Option.map_eq_some_iff.mp hc
  rw [List.getElem?_map, Option.map_eq_some_iff] at ht
  obtain ⟨place, hplace, htext⟩ := ht
  obtain ⟨_, rfl, -⟩ := Option.map_eq_some_iff.mp htext
  rw [captures?, captures_of_loosened h hg hplaces hplace]
  rfl

end Pattern

end PathRoute
