import Mathlib.Data.Set.Insert
import PathRoute.Proofs.Regex.Search

/-!
# The search finds the preferred way

Among the ways to the end that pass no instruction twice at one position, some are preferred: of two
that part at an instruction, the one that takes its earlier alternative. The search gives what is
noted on the first of them in this order, and neither what it has tried before nor the order in
which it got there matters: `execute_eq_some_iff`.
-/

namespace PathRoute.Regex

variable {prog : Program} {text : List Char} {t t' s : Thread} {inst : Inst}
  {v w : Set (Nat × Nat)} {fin fin' : Marks}

/-! ## First elements -/

/-- The first element of a list that has a property. -/
inductive FirstOf {α : Type} (p : α → Prop) : List α → α → Prop where
  | head {a : α} {as : List α} : p a → FirstOf p (a :: as) a
  | tail {a b : α} {as : List α} : ¬p b → FirstOf p as a → FirstOf p (b :: as) a

namespace FirstOf

variable {α : Type} {p q : α → Prop} {as bs : List α} {a b : α}

theorem mem (h : FirstOf p as a) : a ∈ as := by
  induction h with
  | head => exact List.mem_cons_self
  | tail _ _ ih => exact List.mem_cons_of_mem _ ih

theorem unique (ha : FirstOf p as a) (hb : FirstOf p as b) : a = b := by
  induction ha with
  | head ha =>
    cases hb with
    | head => rfl
    | tail hna => exact absurd ha hna
  | tail hnb _ ih =>
    cases hb with
    | head hb => exact absurd hb hnb
    | tail _ hb => exact ih hb

/-- What comes first in two lists comes first in one of them, and in the second one only if there is
nothing of the kind in the first one. -/
theorem of_append (h : FirstOf p (as ++ bs) a) :
    FirstOf p as a ∨ (∀ x ∈ as, ¬p x) ∧ FirstOf p bs a := by
  induction as with
  | nil => exact .inr ⟨by simp, h⟩
  | cons x as ih =>
    cases h with
    | head ha => exact .inl (.head ha)
    | tail hx h =>
      rcases ih h with h | ⟨has, h⟩
      · exact .inl (.tail hx h)
      · exact .inr ⟨List.forall_mem_cons.mpr ⟨hx, has⟩, h⟩

/-- Another property that the element has, too, and that is no wider. -/
theorem restrict (h : FirstOf p as a) (hsub : ∀ x ∈ as, q x → p x) (ha : q a) : FirstOf q as a := by
  induction h with
  | head => exact .head ha
  | tail hb _ ih =>
    obtain ⟨hsub, hrest⟩ := List.forall_mem_cons.mp hsub
    exact .tail (fun h => hb (hsub h)) (ih hrest ha)

theorem of_map {β : Type} {f : β → α} {cs : List β} (h : FirstOf p (cs.map f) a) :
    ∃ c, f c = a ∧ FirstOf (fun x => p (f x)) cs c := by
  induction cs with
  | nil => cases h
  | cons c cs ih =>
    cases h with
    | head hc => exact ⟨c, rfl, .head hc⟩
    | tail hc h =>
      obtain ⟨b, rfl, hb⟩ := ih h
      exact ⟨b, rfl, .tail hc hb⟩

end FirstOf

/-! ## Ways that avoid sites -/

/-- Where a thread stands, whatever has been noted on its way. -/
def Thread.site (t : Thread) : Nat × Nat := (t.addr, t.pos)

/-- Some way from the thread leads to the end and passes none of the sites. -/
inductive Leads (prog : Program) (text : List Char) (v : Set (Nat × Nat)) : Thread → Prop where
  | done {t : Thread} : t.site ∉ v → prog[t.addr]? = some .accept → Leads prog text v t
  | step {t t' : Thread} {inst : Inst} :
      t.site ∉ v → prog[t.addr]? = some inst → t' ∈ t.advance text.toArray inst →
      Leads prog text v t' → Leads prog text v t

/-- The preferred way from the thread that passes none of the sites, and no other site twice, leads
to the end with these notes: at each step it takes the first alternative that leads there. -/
inductive Prefers (prog : Program) (text : List Char) :
    Set (Nat × Nat) → Thread → Marks → Prop where
  | done {v : Set (Nat × Nat)} {t : Thread} :
      t.site ∉ v → prog[t.addr]? = some .accept → Prefers prog text v t t.marks
  | step {v : Set (Nat × Nat)} {t t' : Thread} {inst : Inst} {fin : Marks} :
      t.site ∉ v → prog[t.addr]? = some inst →
      FirstOf (Leads prog text (insert t.site v)) (t.advance text.toArray inst) t' →
      Prefers prog text (insert t.site v) t' fin → Prefers prog text v t fin

namespace Leads

theorem site_not_mem (h : Leads prog text v t) : t.site ∉ v := by
  cases h with
  | done hv => exact hv
  | step hv => exact hv

theorem exists_inst (h : Leads prog text v t) : ∃ inst, prog[t.addr]? = some inst := by
  cases h with
  | done _ hi => exact ⟨_, hi⟩
  | step _ hi => exact ⟨_, hi⟩

theorem mono (h : Leads prog text w t) (hsub : v ⊆ w) : Leads prog text v t := by
  induction h with
  | done hv hi => exact .done (fun hm => hv (hsub hm)) hi
  | step hv hi hm _ ih => exact .step (fun hm => hv (hsub hm)) hi hm ih

/-- Whether a thread leads to the end does not depend on its notes. -/
theorem of_site (h : Leads prog text v t) (hs : s.site = t.site) : Leads prog text v s := by
  induction h generalizing s with
  | @done t hv hi =>
    obtain ⟨ha, -⟩ := Prod.mk.inj hs
    exact .done (hs ▸ hv) (ha ▸ hi)
  | @step t t' inst hv hi hm _ ih =>
    obtain ⟨ha, hp⟩ := Prod.mk.inj hs
    obtain ⟨s', hs', ha', hp'⟩ := Thread.exists_mem_advance hp hm
    exact .step (hs ▸ hv) (ha ▸ hi) hs' (ih (Prod.ext ha' hp'))

/-- A site that does not lead to the end may be avoided. -/
theorem insert (h : Leads prog text v t) (hs : ¬Leads prog text v s) :
    Leads prog text (insert s.site v) t := by
  induction h with
  | @done t hv hi =>
    refine .done ?_ hi
    rintro (heq | hm)
    · exact hs ((done hv hi).of_site heq.symm)
    · exact hv hm
  | @step t t' inst hv hi hm ht ih =>
    refine .step ?_ hi hm ih
    rintro (heq | hm')
    · exact hs ((step hv hi hm ht).of_site heq.symm)
    · exact hv hm'

/-- A way that comes by a site need not come by it again after the last time. -/
theorem avoid_or (h : Leads prog text v t) (hi : prog[s.addr]? = some inst)
    (hne : inst ≠ .accept) :
    Leads prog text (Insert.insert s.site v) t ∨
      ∃ s' ∈ s.advance text.toArray inst, Leads prog text (Insert.insert s.site v) s' := by
  induction h with
  | @done t hv hd =>
    refine .inl (.done ?_ hd)
    rintro (heq | hm)
    · obtain ⟨ha, -⟩ := Prod.mk.inj heq
      exact hne (Option.some.inj (hi.symm.trans (ha ▸ hd)))
    · exact hv hm
  | @step t t' inst' hv hi' hm _ ih =>
    rcases ih with ht' | hs'
    · by_cases heq : t.site = s.site
      · obtain ⟨ha, hp⟩ := Prod.mk.inj heq
        obtain rfl := Option.some.inj (hi.symm.trans (ha ▸ hi'))
        obtain ⟨s', hs', ha', hp'⟩ := Thread.exists_mem_advance hp.symm hm
        exact .inr ⟨s', hs', ht'.of_site (Prod.ext ha' hp')⟩
      · exact .inl (.step (fun hm => hm.elim heq hv) hi' hm ht')
    · exact .inr hs'

/-- The thread goes on to one of its alternatives, and does not come back. -/
theorem advance (h : Leads prog text v t) (hi : prog[t.addr]? = some inst)
    (hne : inst ≠ .accept) :
    ∃ t' ∈ t.advance text.toArray inst, Leads prog text (Insert.insert t.site v) t' := by
  rcases h.avoid_or hi hne with h | h
  · exact absurd (Set.mem_insert ..) h.site_not_mem
  · exact h

theorem accepts (h : Leads prog text v t) : ∃ n fin, Accepts prog text n t fin := by
  induction h with
  | done _ hi => exact ⟨0, _, .done hi⟩
  | step _ hi hm _ ih =>
    obtain ⟨n, fin, h⟩ := ih
    exact ⟨n + 1, fin, .step hi hm h⟩

end Leads

/-! ## The preferred way -/

namespace Prefers

theorem leads (h : Prefers prog text v t fin) : Leads prog text v t := by
  induction h with
  | done hv hi => exact .done hv hi
  | step hv hi hfirst _ ih => exact .step hv hi hfirst.mem (ih.mono (Set.subset_insert ..))

theorem unique (h : Prefers prog text v t fin) (h' : Prefers prog text v t fin') : fin = fin' := by
  induction h generalizing fin' with
  | done _ hi =>
    cases h' with
    | done => rfl
    | step _ hi' hfirst =>
      obtain rfl := Option.some.inj (hi.symm.trans hi')
      cases hfirst.mem
  | step _ hi hfirst _ ih =>
    cases h' with
    | done _ hi' =>
      obtain rfl := Option.some.inj (hi.symm.trans hi')
      cases hfirst.mem
    | step _ hi' hfirst' ht' =>
      obtain rfl := Option.some.inj (hi.symm.trans hi')
      obtain rfl := hfirst.unique hfirst'
      exact ih ht'

/-- To avoid a site that does not lead to the end changes no preference. -/
theorem of_insert (hs : ¬Leads prog text v s) (h : Prefers prog text (insert s.site v) t fin) :
    Prefers prog text v t fin := by
  generalize hw : insert s.site v = w at h
  induction h generalizing v with
  | done hv hi =>
    subst hw
    exact .done (fun hm => hv (Set.mem_insert_of_mem _ hm)) hi
  | @step w t t' inst fin hv hi hfirst ht ih =>
    subst hw
    have hs' : ¬Leads prog text (insert t.site v) s := fun h => hs (h.mono (Set.subset_insert ..))
    have ht' := ih hs' (Set.insert_comm ..)
    refine .step (fun hm => hv (Set.mem_insert_of_mem _ hm)) hi ?_ ht'
    exact hfirst.restrict (fun x _ hx => Set.insert_comm .. ▸ hx.insert hs') ht'.leads

end Prefers

/-! ## What the search prefers -/

/-- The sites that have been tried. -/
def triedSites (text : List Char) (visited : Visited) : Set (Nat × Nat) :=
  {p | p.2 ≤ text.length ∧ Tried text visited p.1 p.2}

variable {visited : Visited} {ts : List Thread}

theorem triedSites_set (hpos : t.pos ≤ text.length)
    (hk : t.addr * (text.length + 1) + t.pos < visited.size) :
    triedSites text (visited.set (t.addr * (text.length + 1) + t.pos) true hk) =
      insert t.site (triedSites text visited) := by
  ext ⟨addr, pos⟩
  simp only [triedSites, Set.mem_ofPred_eq, Set.mem_insert_iff, Thread.site, Prod.mk.injEq]
  constructor
  · rintro ⟨hp, htried⟩
    exact ((tried_set_iff hpos hp hk).mp htried).imp_right fun h => ⟨hp, h⟩
  · rintro (⟨rfl, rfl⟩ | ⟨hp, htried⟩)
    · exact ⟨hpos, (tried_set_iff hpos hpos hk).mpr (.inl ⟨rfl, rfl⟩)⟩
    · exact ⟨hp, htried.set hk⟩

theorem site_not_mem_triedSites (hk : t.addr * (text.length + 1) + t.pos < visited.size)
    (hv : visited[t.addr * (text.length + 1) + t.pos] = false) :
    t.site ∉ triedSites text visited := by
  rintro ⟨-, htried⟩
  simp [Thread.site, Tried, Array.getElem?_eq_getElem hk, hv] at htried

/-- Every instruction has a place in the table of what has been tried, at all positions. -/
theorem key_lt_of_inst (hi : prog[t.addr]? = some inst) (hpos : t.pos ≤ text.length) :
    t.addr * (text.length + 1) + t.pos < prog.length * (text.length + 1) := by
  have haddr := (List.getElem?_eq_some_iff.mp hi).1
  have := Nat.mul_le_mul_right (text.length + 1) (Nat.succ_le_of_lt haddr)
  rw [Nat.succ_mul] at this
  omega

/-- The search finds the preferred way from the first of its threads that leads to the end, where
what has been tried is avoided. -/
theorem prefers_of_explore (h : explore prog.toArray text.toArray visited ts = some fin)
    (hsize : visited.size = prog.length * (text.length + 1))
    (hpos : ∀ t ∈ ts, t.pos ≤ text.length) :
    ∃ t, FirstOf (Leads prog text (triedSites text visited)) ts t ∧
      Prefers prog text (triedSites text visited) t fin := by
  generalize hp : prog.toArray = p, hx : text.toArray = x at h
  fun_induction explore p x visited ts with
  | case1 => cases h
  | case2 visited t rest hk hv hi =>
    obtain rfl := Option.some.inj h
    subst hp hx
    simp only [Thread.key, List.size_toArray] at hk hv
    have hdone : Prefers prog text (triedSites text visited) t t.marks :=
      .done (site_not_mem_triedSites hk hv) (by simpa using hi)
    exact ⟨t, .head hdone.leads, hdone⟩
  | case3 visited t rest hk hv inst hne hi ih =>
    subst hp hx
    have htpos := hpos t List.mem_cons_self
    have hi : prog[t.addr]? = some inst := by simpa using hi
    simp only [Thread.key, List.size_toArray] at hk hv ih h
    rw [triedSites_set htpos hk] at ih
    obtain ⟨u, hfirst, hu⟩ := ih (by simpa using hsize) (fun s hs => by
      rcases List.mem_append.mp hs with hs | hs
      · exact Thread.pos_le_of_mem_advance htpos hs
      · exact hpos s (List.mem_cons_of_mem _ hs)) h
    rcases hfirst.of_append with hfirst | ⟨hadvance, hfirst⟩
    · have ht : Prefers prog text (triedSites text visited) t fin :=
        .step (site_not_mem_triedSites hk hv) hi hfirst hu
      exact ⟨t, .head ht.leads, ht⟩
    · -- the thread itself does not lead to the end, so nothing is lost where it is avoided
      have ht : ¬Leads prog text (triedSites text visited) t := by
        intro ht
        obtain ⟨t', ht', hleads⟩ := ht.advance hi hne
        exact hadvance t' ht' hleads
      have hu := hu.of_insert ht
      exact ⟨u, .tail ht (hfirst.restrict (fun s _ hs => hs.insert ht) hu.leads), hu⟩
  | case4 visited t rest _ _ hi ih =>
    subst hp
    have ht : ¬Leads prog text (triedSites text visited) t := by
      intro ht
      obtain ⟨inst, hinst⟩ := ht.exists_inst
      simp [hinst] at hi
    obtain ⟨u, hfirst, hu⟩ := ih hsize (fun s hs => hpos s (List.mem_cons_of_mem _ hs)) h
    exact ⟨u, .tail ht hfirst, hu⟩
  | case5 visited t rest hk hv ih =>
    subst hx
    have ht : ¬Leads prog text (triedSites text visited) t := by
      refine fun ht => ht.site_not_mem ⟨hpos t List.mem_cons_self, ?_⟩
      exact Array.getElem?_eq_some_iff.mpr ⟨hk, Bool.of_not_eq_false hv⟩
    obtain ⟨u, hfirst, hu⟩ := ih hsize (fun s hs => hpos s (List.mem_cons_of_mem _ hs)) h
    exact ⟨u, .tail ht hfirst, hu⟩
  | case6 visited t rest hk ih =>
    subst hx
    have ht : ¬Leads prog text (triedSites text visited) t := by
      intro ht
      obtain ⟨inst, hinst⟩ := ht.exists_inst
      refine hk ?_
      rw [Thread.key, List.size_toArray, hsize]
      exact key_lt_of_inst hinst (hpos t List.mem_cons_self)
    obtain ⟨u, hfirst, hu⟩ := ih hsize (fun s hs => hpos s (List.mem_cons_of_mem _ hs)) h
    exact ⟨u, .tail ht hfirst, hu⟩

/-- Executing a program gives what is noted on the preferred way from its start. -/
theorem execute_eq_some_iff :
    execute prog text = some fin ↔ Prefers prog text ∅ ⟨0, 0, []⟩ fin := by
  have hprefers {fin : Marks} (h : execute prog text = some fin) :
      Prefers prog text ∅ ⟨0, 0, []⟩ fin := by
    obtain ⟨t, hfirst, ht⟩ := prefers_of_explore h (by simp) (by simp)
    obtain rfl := List.mem_singleton.mp hfirst.mem
    have hnone : triedSites text (.replicate (prog.length * (text.length + 1)) false) = ∅ := by
      ext ⟨addr, pos⟩
      simp [triedSites, Tried, Array.getElem?_replicate]
    exact hnone ▸ ht
  refine ⟨hprefers, fun h => ?_⟩
  obtain ⟨n, m, hm⟩ := h.leads.accepts
  obtain ⟨fin', hfin'⟩ := Option.isSome_iff_exists.mp (execute_isSome_iff.mpr ⟨m, n, hm⟩)
  rw [hfin', h.unique (hprefers hfin')]

end PathRoute.Regex
