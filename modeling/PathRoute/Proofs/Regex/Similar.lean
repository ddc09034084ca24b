import Mathlib.Data.List.Forall2
import PathRoute.Proofs.Regex.Erasure
import PathRoute.Proofs.Regex.Lexeme

/-!
# Readings that differ in their groups

Two readings of the same lexemes go alike when one of them begins within other groups, with other
numbers, or reads groups without a capture where the other one captures. What they build is the
same up to the groups, and takes no more room.
-/

namespace PathRoute.Regex

/-! ## Sizes -/

namespace Size

/-- The same classes, and no more states and ways out of them. -/
structure NoLarger (s t : Size) : Prop where
  states_le : s.states ≤ t.states
  ways_le : s.ways ≤ t.ways
  classes_eq : s.classes = t.classes

variable {s s' t t' : Size}

theorem NoLarger.refl (s : Size) : s.NoLarger s := ⟨Nat.le_refl _, Nat.le_refl _, rfl⟩

theorem NoLarger.add (h : s.NoLarger t) (h' : s'.NoLarger t') : (s.add s').NoLarger (t.add t') where
  states_le := Nat.add_le_add h.states_le h'.states_le
  ways_le := Nat.add_le_add h.ways_le h'.ways_le
  classes_eq := by rw [Size.add, Size.add, h.classes_eq, h'.classes_eq]

theorem NoLarger.times (h : s.NoLarger t) (n : Nat) : (s.times n).NoLarger (t.times n) where
  states_le := Nat.mul_le_mul_right n h.states_le
  ways_le := Nat.mul_le_mul_right n h.ways_le
  classes_eq := by rw [Size.times, Size.times, h.classes_eq]

theorem NoLarger.fork {m n : Nat} (h : m ≤ n) : (Size.fork m).NoLarger (Size.fork n) :=
  ⟨Nat.le_refl _, h, rfl⟩

theorem foldl_add_le {α : Type} (f : α → Nat) (as : List α) {m n : Nat} (h : m ≤ n) :
    as.foldl (fun k a => k + f a) m ≤ as.foldl (fun k a => k + f a) n := by
  induction as generalizing m n with
  | nil => exact h
  | cons a as ih => exact ih (Nat.add_le_add_right h _)

theorem NoLarger.stateBytes_le (h : s.NoLarger t) : s.stateBytes ≤ t.stateBytes :=
  Nat.add_le_add (Nat.mul_le_mul_right _ h.states_le) (Nat.mul_le_mul_right _ h.ways_le)

theorem NoLarger.exceeds (h : s.NoLarger t) (hs : s.exceeds = true) : t.exceeds = true := by
  have hleast : s.leastBytes ≤ t.leastBytes := by
    rw [leastBytes, leastBytes, h.classes_eq]
    exact foldl_add_le _ _ h.stateBytes_le
  have hample : s.ampleBytes ≤ t.ampleBytes := by
    rw [ampleBytes, ampleBytes, h.classes_eq]
    exact foldl_add_le _ _ h.stateBytes_le
  have hbytes : s.bytes ≤ t.bytes := by
    simp only [bytes, h.classes_eq]
    exact foldl_add_le _ _ h.stateBytes_le
  simp only [Size.exceeds, Bool.or_eq_true, Bool.and_eq_true, decide_eq_true_eq] at hs ⊢
  omega

end Size

/-! ## Parts -/

/-- The second part is the first one up to its groups, whose numbers are after `lo` and up to
`hi`. -/
structure Part.Similar (lo hi : Nat) (p q : Part) : Prop where
  erase_eq : q.regex.erase = p.regex.erase
  depth_eq : q.depth = p.depth
  size : q.size.NoLarger p.size
  setting_eq : q.setting = p.setting
  groups : ∀ g ∈ q.regex.groups, lo < g ∧ g ≤ hi

namespace Part.Similar

variable {lo hi hi' : Nat} {p q : Part} {ps qs : List Part}

theorem mono (hle : hi ≤ hi') (h : Part.Similar lo hi p q) : Part.Similar lo hi' p q :=
  { h with groups := fun g hg => ⟨(h.groups g hg).1, Nat.le_trans (h.groups g hg).2 hle⟩ }

/-- A part without groups is similar to itself. -/
theorem refl (h : p.regex.groups = []) : Part.Similar lo hi p p where
  erase_eq := rfl
  depth_eq := rfl
  size := .refl _
  setting_eq := rfl
  groups g hg := by
    rw [h] at hg
    cases hg

theorem map_eq {α : Type} {f : Part → α} (hf : ∀ p q, Part.Similar lo hi p q → f q = f p)
    (h : List.Forall₂ (Part.Similar lo hi) ps qs) : qs.map f = ps.map f := by
  induction h with
  | nil => rfl
  | cons h _ ih => rw [List.map_cons, List.map_cons, hf _ _ h, ih]

theorem groups_of_mem (h : List.Forall₂ (Part.Similar lo hi) ps qs) (hq : q ∈ qs) :
    ∀ g ∈ q.regex.groups, lo < g ∧ g ≤ hi := by
  induction h with
  | nil => cases hq
  | cons h _ ih =>
    rcases List.mem_cons.mp hq with rfl | hq
    · exact h.groups
    · exact ih hq

theorem map_erase_eq (h : List.Forall₂ (Part.Similar lo hi) ps qs) :
    (qs.reverse.map (·.regex)).map erase = (ps.reverse.map (·.regex)).map erase := by
  rw [List.map_map, List.map_map, List.map_reverse, List.map_reverse]
  exact congrArg List.reverse (map_eq (fun p q hpq => hpq.erase_eq) h)

theorem depthOf_eq (h : List.Forall₂ (Part.Similar lo hi) ps qs) : depthOf qs = depthOf ps := by
  rw [depthOf, depthOf, map_eq (fun p q hpq => hpq.depth_eq) h]

theorem sizeOf_noLarger (h : List.Forall₂ (Part.Similar lo hi) ps qs) :
    (sizeOf qs).NoLarger (sizeOf ps) := by
  suffices ∀ {s t : Size}, s.NoLarger t →
      (qs.foldl (fun s p => p.size.add s) s).NoLarger (ps.foldl (fun s p => p.size.add s) t) from
    this (.refl _)
  induction h with
  | nil => exact id
  | cons h _ ih => exact fun hst => ih (h.size.add hst)

theorem sequence (h : List.Forall₂ (Part.Similar lo hi) ps qs) :
    Part.Similar lo hi (Part.sequence ps) (Part.sequence qs) := by
  cases h with
  | nil => exact .refl rfl
  | cons hpq h =>
    cases h with
    | nil => exact hpq
    | cons hpq' h =>
      have hall := List.Forall₂.cons hpq (.cons hpq' h)
      refine ⟨?_, depthOf_eq hall, sizeOf_noLarger hall, rfl, fun g hg => ?_⟩
      · simp only [Part.sequence, erase_seqs, map_erase_eq hall]
      · obtain ⟨a, ha, hg⟩ := mem_groups_seqs.mp hg
        obtain ⟨r, hr, rfl⟩ := List.mem_map.mp ha
        exact groups_of_mem hall (List.mem_reverse.mp hr) g hg

theorem alternatives (h : List.Forall₂ (Part.Similar lo hi) ps qs) :
    Part.Similar lo hi (Part.alternatives ps) (Part.alternatives qs) := by
  cases h with
  | nil => exact .refl rfl
  | cons hpq h =>
    cases h with
    | nil => exact hpq
    | cons hpq' h =>
      have hall := List.Forall₂.cons hpq (.cons hpq' h)
      have hfork := Size.NoLarger.fork (Nat.le_of_eq hall.length_eq.symm)
      refine ⟨?_, depthOf_eq hall, hfork.add (sizeOf_noLarger hall), rfl, fun g hg => ?_⟩
      · simp only [Part.alternatives, erase_alts, map_erase_eq hall]
      · obtain ⟨a, ha, hg⟩ := mem_groups_alts.mp hg
        obtain ⟨r, hr, rfl⟩ := List.mem_map.mp ha
        exact groups_of_mem hall (List.mem_reverse.mp hr) g hg

/-- Only a group that the first reading captures may be captured. -/
theorem group {x y : Option Nat} (h : Part.Similar lo hi p q) (hxy : y.isSome → x.isSome)
    (hy : ∀ g ∈ y, lo < g ∧ g ≤ hi) : Part.Similar lo hi (p.group x) (q.group y) where
  erase_eq := by
    cases x <;> cases y <;> exact h.erase_eq
  depth_eq := congrArg (· + 1) h.depth_eq
  size := by
    refine Size.NoLarger.add ⟨?_, Nat.le_refl _, rfl⟩ h.size
    cases y with
    | none => exact Nat.zero_le _
    | some g => simp [Size.ofStates, hxy rfl]
  setting_eq := rfl
  groups g hg := by
    cases y with
    | none => exact h.groups g hg
    | some i =>
      rcases List.mem_cons.mp hg with rfl | hg
      · exact hy _ rfl
      · exact h.groups g hg

theorem repeated {greedy : Bool} {min : Nat} {max : Option Nat} {p' : Part}
    {cs rest : List Char} (h : Part.Similar lo hi p q)
    (hp : (p.repeated greedy min max).run cs = .ok (p', rest)) (ys : List Char) :
    ∃ q', (q.repeated greedy min max).run ys = .ok (q', ys) ∧ Part.Similar lo hi p' q' := by
  have hsize := (Size.NoLarger.refl (.rounds min max)).add
    (h.size.times (max.getD (Nat.max min 1)))
  simp only [Part.repeated] at hp ⊢
  split at hp <;> rename_i hexceeds
  · cases hp
  · cases hp
    rw [if_neg fun hq => hexceeds (hsize.exceeds hq)]
    refine ⟨_, rfl, ?_, congrArg (· + 1) h.depth_eq, hsize, rfl, fun g hg => ?_⟩
    · simp only [erase_repeats, h.erase_eq]
    · exact h.groups g (mem_of_mem_groups_repeats hg)

end Part.Similar

/-! ## States -/

structure Branches.Similar (lo hi : Nat) (b c : Branches) : Prop where
  done : List.Forall₂ (Part.Similar lo hi) b.done c.done
  parts : List.Forall₂ (Part.Similar lo hi) b.parts c.parts

namespace Branches.Similar

variable {lo hi hi' : Nat} {b c : Branches} {p q : Part}

theorem mono (hle : hi ≤ hi') (h : Branches.Similar lo hi b c) : Branches.Similar lo hi' b c :=
  ⟨h.done.imp fun _ _ => .mono hle, h.parts.imp fun _ _ => .mono hle⟩

theorem empty : Branches.Similar lo hi {} {} := ⟨.nil, .nil⟩

theorem push (h : Branches.Similar lo hi b c) (hpq : Part.Similar lo hi p q) :
    Branches.Similar lo hi (b.push p) (c.push q) := ⟨h.done, .cons hpq h.parts⟩

theorem alternate (h : Branches.Similar lo hi b c) :
    Branches.Similar lo hi b.alternate c.alternate :=
  ⟨.cons (.sequence h.parts) h.done, .nil⟩

theorem close (h : Branches.Similar lo hi b c) : Part.Similar lo hi b.close c.close :=
  .alternatives (.cons (.sequence h.parts) h.done)

end Branches.Similar

structure OpenGroup.Similar (lo hi : Nat) (x y : OpenGroup) : Prop where
  before : Branches.Similar lo hi x.before y.before
  flags_eq : y.flags = x.flags
  isSome : y.index.isSome → x.index.isSome
  index : ∀ g ∈ y.index, lo < g ∧ g ≤ hi

theorem OpenGroup.Similar.mono {lo hi hi' : Nat} {x y : OpenGroup} (hle : hi ≤ hi')
    (h : OpenGroup.Similar lo hi x y) : OpenGroup.Similar lo hi' x y :=
  ⟨h.before.mono hle, h.flags_eq, h.isSome, fun g hg =>
    ⟨(h.index g hg).1, Nat.le_trans (h.index g hg).2 hle⟩⟩

/-- The second state is the first one within other groups, up to the groups that have been opened
since there were `lo` of them. -/
structure ParseState.Similar (lo : Nat) (base : List OpenGroup) (s t : ParseState) : Prop where
  flags_eq : t.flags = s.flags
  current : Branches.Similar lo t.groups s.current t.current
  outer : ∃ inner, t.outer = inner ++ base ∧
    List.Forall₂ (OpenGroup.Similar lo t.groups) s.outer inner
  le_groups : lo ≤ t.groups

/-- What may be read in the place of a lexeme. -/
inductive Lexeme.Stands : Lexeme → Lexeme → Prop where
  | same (l : Lexeme) : Stands l l
  | uncaptured (name : Option (List Char)) : Stands (.capture name) (.group {})

/-- A capture opens a group, and may note a name. -/
theorem Lexeme.eq_of_run_capture {s s' : ParseState} {cs rest : List Char}
    {name : Option (List Char)} (h : ((capture name).apply s).run cs = .ok (s', rest)) :
    ∃ names, s' = { s.capture with names } := by
  cases name with
  | none =>
    cases h
    exact ⟨_, rfl⟩
  | some name =>
    simp only [apply] at h
    split at h
    · cases h
    · cases h
      exact ⟨_, rfl⟩

/-- Only a name that is there already keeps a capture from being read. -/
theorem Lexeme.exists_run_capture {s : ParseState} {name : Option (List Char)}
    (h : ∀ x, name = some x → x ∉ s.names) (cs : List Char) :
    ∃ names, ((capture name).apply s).run cs = .ok ({ s.capture with names }, cs) := by
  cases name with
  | none => exact ⟨_, rfl⟩
  | some name =>
    have hnew : ¬s.names.contains name = true := by simpa using h name rfl
    refine ⟨name :: s.names, ?_⟩
    simp only [apply, hnew]
    rfl

namespace ParseState.Similar

variable {lo : Nat} {base : List OpenGroup} {s s' t : ParseState} {cs rest : List Char}

theorem push {p : Part} (h : Similar lo base s t) (hp : p.regex.groups = []) :
    Similar lo base (s.push p) (t.push p) :=
  ⟨h.flags_eq, h.current.push (.refl hp), h.outer, h.le_groups⟩

/-- A group is opened in both. -/
theorem openGroup (h : Similar lo base s t) {f f' : Flags} {x y : Option Nat} {n n' : Nat}
    {names names' : List (List Char)} (hf : f' = f) (hn : t.groups ≤ n')
    (hxy : y.isSome → x.isSome) (hy : ∀ g ∈ y, lo < g ∧ g ≤ n') :
    Similar lo base ⟨f, {}, ⟨s.current, s.flags, x⟩ :: s.outer, n, names⟩
      ⟨f', {}, ⟨t.current, t.flags, y⟩ :: t.outer, n', names'⟩ := by
  obtain ⟨inner, houter, hinner⟩ := h.outer
  exact ⟨hf, .empty, ⟨⟨t.current, t.flags, y⟩ :: inner, by rw [houter]; rfl,
    .cons ⟨h.current.mono hn, h.flags_eq, hxy, hy⟩ (hinner.imp fun _ _ => .mono hn)⟩,
    Nat.le_trans h.le_groups hn⟩

theorem capture (h : Similar lo base s t) (names names' : List (List Char)) :
    Similar lo base { s.capture with names } { t.capture with names := names' } := by
  refine h.openGroup h.flags_eq (Nat.le_succ _) (fun _ => rfl) fun g hg => ?_
  obtain rfl := Option.some.inj hg
  exact ⟨Nat.lt_succ_of_le h.le_groups, Nat.le_refl _⟩

theorem repeatLast {min : Nat} {max : Option Nat} {lazy : Bool} (h : Similar lo base s t)
    (hs : (repeatLast s min max lazy).run cs = .ok (s', rest)) (ys : List Char) :
    ∃ t', (Regex.repeatLast t min max lazy).run ys = .ok (t', ys) ∧ Similar lo base s' t' ∧
      t'.groups = t.groups := by
  have hparts := h.current.parts
  unfold Regex.repeatLast at hs ⊢
  cases hs' : s.current.parts with
  | nil =>
    rw [hs'] at hs
    cases hs
  | cons p ps =>
    rw [hs'] at hparts hs
    obtain ⟨q, qs, hpq, hqs, ht⟩ := List.forall₂_cons_left_iff.mp hparts
    rw [ht]
    dsimp only at hs ⊢
    rw [hpq.setting_eq, h.flags_eq]
    split at hs
    · cases hs
    · rename_i hset
      rw [if_neg hset]
      obtain ⟨p', mid, hp', hs⟩ := Reader.exists_of_run_bind hs
      obtain ⟨q', hq', hsim⟩ := hpq.repeated hp' ys
      cases hs
      rw [Reader.run_bind, hq']
      exact ⟨_, rfl, ⟨rfl, ⟨h.current.done, .cons hsim hqs⟩, h.outer, h.le_groups⟩, rfl⟩

theorem closeGroup (h : Similar lo base s t) (hs : (closeGroup s).run cs = .ok (s', rest))
    (ys : List Char) :
    ∃ t', (Regex.closeGroup t).run ys = .ok (t', ys) ∧ Similar lo base s' t' ∧
      t'.groups = t.groups := by
  obtain ⟨inner, houter, hinner⟩ := h.outer
  unfold Regex.closeGroup at hs ⊢
  cases hs' : s.outer with
  | nil =>
    rw [hs'] at hs
    cases hs
  | cons x outer =>
    rw [hs'] at hinner hs
    obtain ⟨y, inner', hxy, hinner', rfl⟩ := List.forall₂_cons_left_iff.mp hinner
    rw [houter]
    cases hs
    exact ⟨_, rfl, ⟨hxy.flags_eq, hxy.before.push (h.current.close.group hxy.isSome hxy.index),
      ⟨inner', rfl, hinner'⟩, h.le_groups⟩, rfl⟩

/-- What a lexeme does to the first state, what stands for it does to the second one. -/
theorem apply {l l' : Lexeme} (h : Similar lo base s t)
    (hs : (l.apply s).run cs = .ok (s', rest)) (hl : l.Stands l')
    (hnames : ∀ name, l' = .capture (some name) → name ∉ t.names) (ys : List Char) :
    ∃ t', (l'.apply t).run ys = .ok (t', ys) ∧ Similar lo base s' t' ∧ t.groups ≤ t'.groups ∧
      ((∀ name, l' ≠ .capture name) → t'.groups = t.groups) := by
  cases hl with
  | uncaptured name =>
    obtain ⟨names, rfl⟩ := Lexeme.eq_of_run_capture hs
    refine ⟨_, rfl, ?_, Nat.le_refl _, fun _ => rfl⟩
    exact h.openGroup h.flags_eq (Nat.le_refl _) (by simp) (by simp)
  | same =>
    cases l with
    | blank =>
      cases hs
      exact ⟨t, rfl, h, Nat.le_refl _, fun _ => rfl⟩
    | char a depth =>
      cases hs
      exact ⟨_, rfl, h.push rfl, Nat.le_refl _, fun _ => rfl⟩
    | look l =>
      cases hs
      exact ⟨_, rfl, h.push rfl, Nat.le_refl _, fun _ => rfl⟩
    | alternate =>
      cases hs
      exact ⟨_, rfl, ⟨h.flags_eq, h.current.alternate, h.outer, h.le_groups⟩, Nat.le_refl _,
        fun _ => rfl⟩
    | repetition min max lazy =>
      obtain ⟨t', ht', hsim, hgroups⟩ := h.repeatLast hs ys
      exact ⟨t', ht', hsim, hgroups ▸ Nat.le_refl _, fun _ => hgroups⟩
    | capture name =>
      obtain ⟨names, rfl⟩ := Lexeme.eq_of_run_capture hs
      have hnew : ∀ x, name = some x → x ∉ t.names := by
        rintro x rfl
        exact hnames x rfl
      obtain ⟨names', ht⟩ := Lexeme.exists_run_capture hnew ys
      exact ⟨_, ht, h.capture names names', Nat.le_succ _, fun hne => absurd rfl (hne name)⟩
    | group fs =>
      cases hs
      refine ⟨_, rfl, h.openGroup ?_ (Nat.le_refl _) (by simp) (by simp), Nat.le_refl _,
        fun _ => rfl⟩
      rw [h.flags_eq]
    | setting fs =>
      cases hs
      have hpush := h.push (p := { regex := .empty, setting := true }) rfl
      refine ⟨_, rfl, ⟨?_, hpush.current, hpush.outer, hpush.le_groups⟩, Nat.le_refl _,
        fun _ => rfl⟩
      exact congrArg (fun f => f.apply fs) h.flags_eq
    | close =>
      obtain ⟨t', ht', hsim, hgroups⟩ := h.closeGroup hs ys
      exact ⟨t', ht', hsim, hgroups ▸ Nat.le_refl _, fun _ => hgroups⟩

/-- Where the first reading ends well, so does the second one. -/
theorem finish {a : Regex} (h : Similar lo [] s t) (hs : finish s = .ok a) :
    ∃ b, Regex.finish t = .ok b ∧ b.erase = a.erase ∧ ∀ g ∈ b.groups, lo < g ∧ g ≤ t.groups := by
  obtain ⟨inner, houter, hinner⟩ := h.outer
  have hclose := h.current.close
  simp only [Regex.finish] at hs ⊢
  split at hs <;> rename_i hopen
  · cases hs
  · split at hs <;> rename_i hdepth
    · cases hs
    · split at hs <;> rename_i hsize
      · cases hs
      · cases hs
        have hempty : s.outer = [] := by simpa using hopen
        rw [hempty, List.forall₂_nil_left_iff] at hinner
        rw [houter, hinner, hclose.depth_eq, if_neg hdepth,
          if_neg fun ht => hsize (hclose.size.exceeds ht)]
        exact ⟨_, rfl, hclose.erase_eq, hclose.groups⟩

end ParseState.Similar

end PathRoute.Regex
