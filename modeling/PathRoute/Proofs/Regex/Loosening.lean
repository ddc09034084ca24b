import PathRoute.Proofs.Regex.Groups
import PathRoute.Proofs.Regex.Preference
import PathRoute.Proofs.Regex.Relocation

/-!
# Groups that may be left out

To make a group of an expression optional adds ways to match, and changes which of them is
preferred. But it adds only ways that leave the group out: so where the preferred way does
not, it is the one that was preferred before, with the same captures:
`captures_of_loosened`.
-/

namespace PathRoute.Regex

/-- The second expression is the first one with a group made optional, which stands there once and
in no loop. -/
inductive Loosened (g : Nat) (c : Regex) : Regex → Regex → Prop where
  | here : g ∉ c.groups → Loosened g c (.group g c) (opt true (.group g c))
  | seqLeft {a a' b : Regex} :
      Loosened g c a a' → g ∉ b.groups → Loosened g c (.seq a b) (.seq a' b)
  | seqRight {a b b' : Regex} :
      g ∉ a.groups → Loosened g c b b' → Loosened g c (.seq a b) (.seq a b')
  | altFirst {a a' b : Regex} :
      Loosened g c a a' → g ∉ b.groups → Loosened g c (.alt a b) (.alt a' b)
  | group {i : Nat} {a a' : Regex} :
      i ≠ g → Loosened g c a a' → Loosened g c (.group i a) (.group i a')

variable {prog prog' : Program} {text : List Char} {a a' b c : Regex}
  {g i j s k start next x y : Nat} {inst : Inst} {t t' : Thread} {v v' : Set (Nat × Nat)}
  {m fin : Marks}

namespace Loosened

theorem size_eq (h : Loosened g c a a') : a'.size = a.size + 2 := by
  induction h with
  | here => rfl
  | seqLeft _ _ ih | seqRight _ _ ih | altFirst _ _ ih | group _ _ ih =>
    simp only [size, ih] <;> omega

theorem groupCount_eq (h : Loosened g c a a') : a'.groupCount = a.groupCount := by
  induction h with
  | here => simp [opt, groupCount]
  | seqLeft _ _ ih | seqRight _ _ ih | altFirst _ _ ih | group _ _ ih => simp only [groupCount, ih]

/-- What matched before still matches, with the same notes. -/
theorem matches_of_matches (h : Loosened g c a a') (hm : Matches text a i j m) :
    Matches text a' i j m := by
  induction h generalizing i j m with
  | here => exact Matches.opt_iff.mpr (.inl hm)
  | seqLeft _ _ ih =>
    obtain ⟨k, n, n', ha, hb, rfl⟩ := Matches.seq_iff.mp hm
    exact .seq (ih ha) hb
  | seqRight _ _ ih =>
    obtain ⟨k, n, n', ha, hb, rfl⟩ := Matches.seq_iff.mp hm
    exact .seq ha (ih hb)
  | altFirst _ _ ih => exact Matches.alt_iff.mpr ((Matches.alt_iff.mp hm).imp_left ih)
  | group _ _ ih =>
    obtain ⟨n, ha, rfl⟩ := Matches.group_iff.mp hm
    exact .group (ih ha)

end Loosened

/-! ## Where the code stands -/

/-- The address that an address becomes where two instructions are put around the code of `k`
instructions that stands at `s`. What led to that code leads to the first of them. -/
def widen (s k y : Nat) : Nat := if y ≤ s then y else if y < s + k then y + 1 else y + 2

theorem widen_of_le (h : y ≤ s) : widen s k y = y := if_pos h

theorem widen_of_between (hs : s < y) (hy : y < s + k) : widen s k y = y + 1 := by
  rw [widen, if_neg (by omega), if_pos hy]

theorem widen_of_ge (hk : 0 < k) (hy : s + k ≤ y) : widen s k y = y + 2 := by
  rw [widen, if_neg (by omega), if_neg (by omega)]

/-- Code behind is moved by the two instructions. -/
theorem map_relocate_widen (hk : 0 < k) (hs : s + k ≤ start) (hnext : s + k ≤ next) :
    (b.code start next).map (.relocate (widen s k)) = b.code (start + 2) (next + 2) := by
  rw [map_relocate_code (start + 2), widen_of_ge hk hnext]
  intro k hk
  rw [widen_of_ge (by omega) (by omega)]
  omega

/-- Code in front stays where it stands. -/
theorem map_relocate_widen_front (hs : start + b.size ≤ s) (hnext : next ≤ s) :
    (b.code start next).map (.relocate (widen s k)) = b.code start next := by
  rw [map_relocate_code start, widen_of_le hnext]
  intro k hk
  rw [widen_of_le (by omega)]

/-- Two pieces of code that are the same but for a group, which the second one may leave out. What
stands behind the group never leads back to it, and nothing else takes its notes. -/
structure Beside (g : Nat) (c : Regex) (code code' : Program) (s exit : Nat) (pre post : Program) :
    Prop where
  code_eq : code = pre ++ ((Regex.group g c).code s exit ++ post)
  code'_eq : code' = pre.map (.relocate (widen s (c.size + 2))) ++
    (.split (s + 1) (s + 1 + (c.size + 2)) ::
      (((Regex.group g c).code s exit).map (.relocate (widen s (c.size + 2))) ++
        .jump (widen s (c.size + 2) exit) :: post.map (.relocate (widen s (c.size + 2)))))
  le_exit : s + (c.size + 2) ≤ exit
  silent : ∀ inst ∈ pre ++ post, ∀ slot, inst.slot? = some slot → slot / 2 ≠ g
  onward : ∀ inst ∈ post, ∀ x ∈ inst.targets, s + (c.size + 2) ≤ x

namespace Beside

variable {code code' pre post front front' back back' : Program} {exit : Nat}

/-- More code in front and behind, which says nothing of the group and does not lead back to it. -/
theorem extend (h : Beside g c code code' s exit pre post)
    (hfront : front.map (.relocate (widen s (c.size + 2))) = front')
    (hback : back.map (.relocate (widen s (c.size + 2))) = back')
    (hsilent : ∀ inst ∈ front ++ back, ∀ slot, inst.slot? = some slot → slot / 2 ≠ g)
    (honward : ∀ inst ∈ back, ∀ x ∈ inst.targets, s + (c.size + 2) ≤ x) :
    Beside g c (front ++ (code ++ back)) (front' ++ (code' ++ back')) s exit (front ++ pre)
      (post ++ back) where
  code_eq := by simp [h.code_eq]
  code'_eq := by simp [h.code'_eq, hfront, hback]
  le_exit := h.le_exit
  silent inst hinst := by
    have hinner := h.silent inst
    have houter := hsilent inst
    simp only [List.mem_append] at hinst hinner houter
    tauto
  onward inst hinst := by
    rcases List.mem_append.mp hinst with hinst | hinst
    · exact h.onward inst hinst
    · exact honward inst hinst

theorem length_eq (h : Beside g c code code' s exit pre post) :
    code.length = pre.length + (c.size + 2 + post.length) := by
  rw [h.code_eq, List.length_append, List.length_append, length_code, size]

end Beside

theorem slot_ne_of_mem_code (hg : g ∉ b.groups) (h : inst ∈ b.code start next) :
    ∀ slot, inst.slot? = some slot → slot / 2 ≠ g := by
  rintro slot hs rfl
  exact hg (slot_of_mem_code h hs)

/-- The code of an expression without the group behind it. -/
theorem Beside.extend_code {code code' pre post front front' : Program} {exit : Nat}
    (h : Beside g c code code' s exit pre post)
    (hfront : front.map (.relocate (widen s (c.size + 2))) = front')
    (hsilent : ∀ inst ∈ front, ∀ slot, inst.slot? = some slot → slot / 2 ≠ g) (hb : g ∉ b.groups)
    (hstart : s + (c.size + 2) ≤ start) (hnext : s + (c.size + 2) ≤ next) :
    Beside g c (front ++ (code ++ b.code start next))
      (front' ++ (code' ++ b.code (start + 2) (next + 2))) s exit (front ++ pre)
      (post ++ b.code start next) := by
  refine h.extend hfront (map_relocate_widen (by omega) hstart hnext) (fun inst hinst => ?_)
    fun inst hinst x hx => ?_
  · rcases List.mem_append.mp hinst with hinst | hinst
    · exact hsilent inst hinst
    · exact slot_ne_of_mem_code hb hinst
  · rcases target_of_mem_code hinst hx with rfl | hx <;> omega

/-- The code of an optional group beside that of the group. -/
theorem beside_here (hnext : start + (c.size + 2) ≤ next) :
    Beside g c ((Regex.group g c).code start next) ((opt true (.group g c)).code start (next + 2))
      start next [] [] := by
  have hw : widen start (c.size + 2) next = next + 2 := widen_of_ge (by omega) hnext
  have hfirst : widen start (c.size + 2) (start + 1) = start + 1 + 1 :=
    widen_of_between (by omega) (by omega)
  have hlast : widen start (c.size + 2) (start + 1 + c.size) = start + 1 + 1 + c.size := by
    rw [widen_of_between (by omega) (by omega)]
    omega
  have hinner : (c.code (start + 1) (start + 1 + c.size)).map
      (.relocate (widen start (c.size + 2))) =
        c.code (start + 1 + 1) (start + 1 + 1 + c.size) := by
    rw [map_relocate_code (start + 1 + 1), hlast]
    intro k hk
    rw [widen_of_between (by omega) (by omega)]
    omega
  have hgroup : ((Regex.group g c).code start next).map (.relocate (widen start (c.size + 2))) =
      (Regex.group g c).code (start + 1) (next + 2) := by
    simp only [code, List.map_cons, List.map_append, List.map_nil, Inst.relocate, hfirst, hinner,
      hw]
  refine ⟨by simp, ?_, hnext, by simp, by simp⟩
  rw [hgroup, hw]
  rfl

/-- The code of the two expressions, wherever it stands. -/
theorem Loosened.exists_beside (h : Loosened g c a a') (start next : Nat)
    (hnext : start + a.size ≤ next) :
    ∃ s exit pre post, s = start + pre.length ∧
      Beside g c (a.code start next) (a'.code start (next + 2)) s exit pre post := by
  induction h generalizing start next with
  | here => exact ⟨start, next, [], [], rfl, beside_here hnext⟩
  | @seqLeft a a' b h hb ih =>
    rw [size] at hnext
    obtain ⟨s, exit, pre, post, hs, hbeside⟩ := ih start _ (Nat.le_refl _)
    have hlen := hbeside.length_eq
    rw [length_code] at hlen
    refine ⟨s, exit, pre, post ++ b.code (start + a.size) next, hs, ?_⟩
    rw [code, code, h.size_eq, ← Nat.add_assoc]
    exact hbeside.extend_code List.map_nil (by simp) hb (by omega) (by omega)
  | @seqRight a b b' ha h ih =>
    rw [size] at hnext
    obtain ⟨s, exit, pre, post, hs, hbeside⟩ :=
      ih (start + a.size) next (by omega)
    have hfront : (a.code start (start + a.size)).map (.relocate (widen s (c.size + 2))) =
        a.code start (start + a.size) := map_relocate_widen_front (by omega) (by omega)
    refine ⟨s, exit, a.code start (start + a.size) ++ pre, post ++ [],
      by simp [hs, Nat.add_assoc], ?_⟩
    have hsilent : ∀ inst ∈ a.code start (start + a.size) ++ [], ∀ slot,
        inst.slot? = some slot → slot / 2 ≠ g := by
      rw [List.append_nil]
      exact fun inst hinst => slot_ne_of_mem_code ha hinst
    simpa [code] using hbeside.extend hfront List.map_nil hsilent (by simp)
  | @altFirst a a' b h hb ih =>
    rw [size] at hnext
    obtain ⟨s, exit, pre, post, hs, hbeside⟩ := ih (start + 1) next (by omega)
    have hlen := hbeside.length_eq
    rw [length_code] at hlen
    have hfront : [Inst.split (start + 1) (start + 1 + a.size)].map
        (Inst.relocate (widen s (c.size + 2))) =
          [Inst.split (start + 1) (start + 1 + a.size + 2)] := by
      rw [List.map_singleton, Inst.relocate, widen_of_le (by omega),
        widen_of_ge (by omega) (by omega)]
    refine ⟨s, exit, .split (start + 1) (start + 1 + a.size) :: pre,
      post ++ b.code (start + 1 + a.size) next, by simp only [hs, List.length_cons]; omega, ?_⟩
    rw [code, code, h.size_eq, ← Nat.add_assoc]
    refine hbeside.extend_code hfront (fun inst hinst slot hslot => ?_) hb (by omega) (by omega)
    obtain rfl := List.mem_singleton.mp hinst
    cases hslot
  | @group i a a' hi h ih =>
    rw [size] at hnext
    obtain ⟨s, exit, pre, post, hs, hbeside⟩ := ih (start + 1) _ (Nat.le_refl _)
    have hlen := hbeside.length_eq
    rw [length_code] at hlen
    have hfront : [Inst.save (2 * i) (start + 1)].map (Inst.relocate (widen s (c.size + 2))) =
        [Inst.save (2 * i) (start + 1)] := by
      rw [List.map_singleton, Inst.relocate, widen_of_le (by omega)]
    have hback : [Inst.save (2 * i + 1) next].map (Inst.relocate (widen s (c.size + 2))) =
        [Inst.save (2 * i + 1) (next + 2)] := by
      rw [List.map_singleton, Inst.relocate, widen_of_ge (by omega) (by omega)]
    refine ⟨s, exit, .save (2 * i) (start + 1) :: pre, post ++ [.save (2 * i + 1) next],
      by simp only [hs, List.length_cons]; omega, ?_⟩
    rw [code, code, h.size_eq, ← Nat.add_assoc]
    refine hbeside.extend hfront hback (fun inst hinst slot hslot => ?_) fun inst hinst x hx => ?_
    · simp only [List.cons_append, List.nil_append, List.mem_cons, List.not_mem_nil,
        or_false] at hinst
      rcases hinst with rfl | rfl <;> cases hslot <;> omega
    · obtain rfl := List.mem_singleton.mp hinst
      obtain rfl := List.mem_singleton.mp hx
      omega

theorem Loosened.beside_program (h : Loosened g c a a') :
    ∃ exit pre post, Beside g c a.program a'.program pre.length exit pre post := by
  obtain ⟨s, exit, pre, post, hs, hbeside⟩ :=
    h.exists_beside 0 _ (Nat.le_of_eq (Nat.zero_add _))
  rw [Nat.zero_add] at hs
  subst hs
  rw [← h.size_eq] at hbeside
  have haccept :
      [Inst.accept].map (Inst.relocate (widen pre.length (c.size + 2))) = [Inst.accept] := rfl
  refine ⟨exit, pre, _, hbeside.extend List.map_nil haccept ?_ ?_⟩
  · intro inst hinst slot hslot
    obtain rfl := List.mem_singleton.mp hinst
    cases hslot
  · intro inst hinst x hx
    obtain rfl := List.mem_singleton.mp hinst
    cases hx

/-! ## One instruction after the other -/

/-- The address of an instruction that stood at an address. -/
def shift (s k y : Nat) : Nat := if y < s then y else if y < s + k then y + 1 else y + 2

theorem widen_eq_shift (h : y ≠ s) : widen s k y = shift s k y := by grind [widen, shift]

theorem shift_inj : shift s k x = shift s k y ↔ x = y := by grind [shift]

theorem shift_ne : shift s k y ≠ s := by grind [shift]

theorem shift_self (hk : 0 < k) : shift s k s = s + 1 := by grind [shift]

namespace Beside

variable {pre post : Program} {exit : Nat}

theorem getElem?_start (h : Beside g c prog prog' pre.length exit pre post) :
    prog[pre.length]? = some (.save (2 * g) (pre.length + 1)) := by
  rw [h.code_eq, List.getElem?_append_right (Nat.le_refl _), Nat.sub_self]
  rfl

theorem getElem?_fork (h : Beside g c prog prog' pre.length exit pre post) :
    prog'[pre.length]? =
      some (.split (pre.length + 1) (pre.length + 1 + (c.size + 2))) := by
  rw [h.code'_eq, List.getElem?_append_right (by simp)]
  simp

/-- Every instruction is still there. -/
theorem getElem?_shift (h : Beside g c prog prog' pre.length exit pre post) (y : Nat) :
    prog'[shift pre.length (c.size + 2) y]? =
      prog[y]?.map (.relocate (widen pre.length (c.size + 2))) := by
  rw [h.code_eq, h.code'_eq]
  simp only [shift, List.getElem?_append, List.getElem?_map, List.getElem?_cons, List.length_map,
    length_code, size]
  grind

/-- Before the group nothing takes its notes. -/
theorem silent_before (h : Beside g c prog prog' pre.length exit pre post) (hy : y < pre.length)
    (hi : prog[y]? = some inst) : inst.slot? ≠ some (2 * g + 1) := by
  rw [h.code_eq, List.getElem?_append_left hy] at hi
  intro hslot
  exact h.silent inst (List.mem_append_left _ (List.mem_of_getElem? hi)) _ hslot (by omega)

/-- What stands in the group or behind it does not lead back in front of it. -/
theorem lt_target (h : Beside g c prog prog' pre.length exit pre post) (hy : pre.length < y)
    (hi : prog[y]? = some inst) (hx : x ∈ inst.targets) : pre.length < x := by
  have hexit := h.le_exit
  rw [h.code_eq, List.getElem?_append_right (Nat.le_of_lt hy)] at hi
  obtain ⟨n, hn⟩ : ∃ n, y - pre.length = n + 1 := ⟨y - pre.length - 1, by omega⟩
  rw [hn, code, List.cons_append, List.getElem?_cons_succ, List.append_assoc] at hi
  rcases List.mem_append.mp (List.mem_of_getElem? hi) with hmem | hmem
  · rcases target_of_mem_code hmem hx with rfl | hx <;> omega
  · rcases List.mem_cons.mp hmem with rfl | hmem
    · obtain rfl := List.mem_singleton.mp hx
      omega
    · have := h.onward inst hmem x hx
      omega

/-- What is left to do where the group has been left out does not lead back to it, and does not take
its notes. -/
theorem behind (h : Beside g c prog prog' pre.length exit pre post)
    (hy : pre.length + 1 + (c.size + 2) ≤ y) (hi : prog'[y]? = some inst) :
    inst.slot? ≠ some (2 * g + 1) ∧
      ∀ x ∈ inst.targets, pre.length + 1 + (c.size + 2) ≤ x := by
  have hexit := h.le_exit
  have hwiden {x : Nat} (hx : pre.length + (c.size + 2) ≤ x) :
      pre.length + 1 + (c.size + 2) ≤ widen pre.length (c.size + 2) x := by
    rw [widen_of_ge (by omega) hx]
    omega
  obtain ⟨n, rfl⟩ := Nat.exists_eq_add_of_le hy
  have hget : prog'[pre.length + 1 + (c.size + 2) + n]? =
      (Inst.jump (widen pre.length (c.size + 2) exit) ::
        post.map (.relocate (widen pre.length (c.size + 2))))[n]? := by
    rw [h.code'_eq, List.getElem?_append_right (by simp; omega), List.getElem?_cons,
      if_neg (by simp; omega), List.getElem?_append_right (by simp [size]; omega)]
    congr 1
    simp [size]
    omega
  rw [hget] at hi
  rcases List.mem_cons.mp (List.mem_of_getElem? hi) with rfl | hmem
  · refine ⟨by simp [Inst.slot?], fun x hx => ?_⟩
    obtain rfl := List.mem_singleton.mp hx
    exact hwiden hexit
  · obtain ⟨inst, hinst, rfl⟩ := List.mem_map.mp hmem
    rw [Inst.slot?_relocate, Inst.targets_relocate]
    refine ⟨fun hslot => h.silent inst (List.mem_append_right _ hinst) _ hslot (by omega), ?_⟩
    intro x hx
    obtain ⟨y, hy, rfl⟩ := List.mem_map.mp hx
    exact hwiden (h.onward inst hinst y hy)

/-- A way that leaves the group out ends without a place for it. -/
theorem lookup_of_prefers (h : Beside g c prog prog' pre.length exit pre post)
    (hp : Prefers prog' text v t fin) (ht : pre.length + 1 + (c.size + 2) ≤ t.addr) :
    fin.lookup (2 * g + 1) = t.marks.lookup (2 * g + 1) := by
  induction hp with
  | done => rfl
  | step _ hi hfirst _ ih =>
    obtain ⟨hslot, hbehind⟩ := h.behind ht hi
    rw [ih (hbehind _ (addr_mem_targets hfirst.mem)), lookup_of_mem_advance hfirst.mem hslot]

end Beside

/-! ## Both programs on one way -/

/-- The same way in both programs, up to where it is: the second program may be at the fork. -/
structure Abreast (g s k : Nat) (v v' : Set (Nat × Nat)) (t t' : Thread) : Prop where
  addr : (t.addr = s ∧ t'.addr = s) ∨ t'.addr = shift s k t.addr
  pos : t'.pos = t.pos
  marks : t'.marks = t.marks
  sites : ∀ y p, (shift s k y, p) ∈ v' ↔ (y, p) ∈ v
  fork : ∀ p, (s, p) ∈ v' → (s, p) ∈ v ∨ (t.addr = s ∧ t.pos = p)
  /-- In front of the group nothing is noted for it. -/
  silent : t.addr ≤ s → t.marks.lookup (2 * g + 1) = none

namespace Abreast

/-- At the fork both programs go on abreast if the group is not left out. -/
theorem into (hk : 0 < k) (ha : Abreast g s k v v' t t') (hs : t.addr = s)
    (ht' : t'.addr = s) :
    Abreast g s k v (insert t'.site v') t { t' with addr := s + 1 } where
  addr := .inr (by rw [hs, shift_self hk])
  pos := ha.pos
  marks := ha.marks
  sites y p := by
    have hne : (shift s k y, p) ≠ t'.site := by
      simp [Thread.site, ht', shift_ne]
    rw [Set.mem_insert_iff, or_iff_right hne, ha.sites]
  fork p hp := by
    rcases hp with heq | hp
    · obtain ⟨-, rfl⟩ := Prod.mk.inj heq
      exact .inr ⟨hs, ha.pos.symm⟩
    · exact ha.fork p hp
  silent := ha.silent

/-- A step away from the fork is none that passes the fork alone. -/
theorem fork_insert {p : Nat} (ha : Abreast g s k v v' t t')
    (ht' : t'.addr = shift s k t.addr) (hp : (s, p) ∈ insert t'.site v') :
    (s, p) ∈ insert t.site v := by
  rcases hp with heq | hp
  · rw [Thread.site, ht'] at heq
    exact absurd (Prod.mk.inj heq).1.symm shift_ne
  · rcases ha.fork p hp with hv | ⟨hs, rfl⟩
    · exact .inr hv
    · exact .inl (by rw [Thread.site, hs])

/-- Away from the fork one step of each keeps them abreast. -/
theorem step {pre post : Program} {exit : Nat}
    (h : Beside g c prog prog' pre.length exit pre post)
    (ha : Abreast g pre.length (c.size + 2) v v' t t')
    (ht' : t'.addr = shift pre.length (c.size + 2) t.addr) (hi : prog[t.addr]? = some inst)
    {t₁ : Thread} (hm : t₁ ∈ t.advance text.toArray inst) :
    Abreast g pre.length (c.size + 2) (insert t.site v) (insert t'.site v') t₁
      (t₁.relocate (widen pre.length (c.size + 2))) where
  addr := by
    by_cases hs : t₁.addr = pre.length
    · exact .inl ⟨hs, by rw [Thread.relocate, hs, widen_of_le (Nat.le_refl _)]⟩
    · exact .inr (by rw [Thread.relocate, widen_eq_shift hs])
  pos := rfl
  marks := rfl
  sites y p := by
    simp [Set.mem_insert_iff, Thread.site, ht', ha.pos, shift_inj, ha.sites]
  fork p hp := .inl (ha.fork_insert ht' hp)
  silent ht₁ := by
    have hmem := addr_mem_targets hm
    rcases Nat.lt_trichotomy t.addr pre.length with hlt | heq | hlt
    · rw [lookup_of_mem_advance hm (h.silent_before hlt hi)]
      exact ha.silent (Nat.le_of_lt hlt)
    · rw [heq, h.getElem?_start] at hi
      obtain rfl := Option.some.inj hi
      have := List.mem_singleton.mp hmem
      omega
    · have := h.lt_target hlt hi hmem
      omega

end Abreast

/-- What led to the end still does. -/
theorem Beside.leads_of_leads {pre post : Program} {exit : Nat}
    (h : Beside g c prog prog' pre.length exit pre post)
    (hsites : ∀ y p, (shift pre.length (c.size + 2) y, p) ∈ v' → (y, p) ∈ v)
    (hfork : ∀ p, (pre.length, p) ∈ v' → (pre.length, p) ∈ v) (ht : Leads prog text v t) :
    Leads prog' text v' (t.relocate (widen pre.length (c.size + 2))) := by
  induction ht with
  | @done t hv hi =>
    have hne : t.addr ≠ pre.length := by
      intro heq
      rw [heq, h.getElem?_start] at hi
      cases hi
    refine .done (fun hm => hv (hsites _ _ ?_)) ?_
    · simpa [Thread.site, Thread.relocate, widen_eq_shift hne] using hm
    · simp [Thread.relocate, widen_eq_shift hne, h.getElem?_shift, hi, Inst.relocate]
  | @step t t₁ inst hv hi hm _ ih =>
    have hget := h.getElem?_shift t.addr
    rw [hi, Option.map_some] at hget
    have hadv : Thread.advance text.toArray
        ⟨shift pre.length (c.size + 2) t.addr, t.pos, t.marks⟩
        (inst.relocate (widen pre.length (c.size + 2))) =
          (t.advance text.toArray inst).map (Thread.relocate (widen pre.length (c.size + 2))) :=
      Thread.advance_relocate rfl rfl
    have hstep : Leads prog' text v' ⟨shift pre.length (c.size + 2) t.addr, t.pos, t.marks⟩ :=
      .step (fun hm => hv (hsites _ _ hm)) hget (hadv ▸ List.mem_map_of_mem hm) ih
    by_cases heq : t.addr = pre.length
    · -- at the group the way goes by the fork
      rw [heq, shift_self (by omega)] at hstep
      have hrel : t.relocate (widen pre.length (c.size + 2)) = ⟨pre.length, t.pos, t.marks⟩ := by
        rw [Thread.relocate, heq, widen_of_le (Nat.le_refl _)]
      rw [hrel]
      refine .step (fun hm => hv ?_) h.getElem?_fork List.mem_cons_self hstep
      simpa [Thread.site, heq] using hfork _ hm
    · refine hstep.of_site ?_
      simp [Thread.site, Thread.relocate, widen_eq_shift heq]

/-- A preferred way that ends with a place for the group was preferred before. -/
theorem Beside.prefers_of_prefers {pre post : Program} {exit : Nat}
    (h : Beside g c prog prog' pre.length exit pre post)
    (hp : Prefers prog' text v' t' fin) (hn : fin.lookup (2 * g + 1) ≠ none)
    (ha : Abreast g pre.length (c.size + 2) v v' t t') : Prefers prog text v t fin := by
  induction hp generalizing v t with
  | @done v' t' hv hi =>
    rcases ha.addr with ⟨-, hs⟩ | hs
    · rw [hs, h.getElem?_fork] at hi
      cases hi
    · rw [hs, h.getElem?_shift, Option.map_eq_some_iff] at hi
      obtain ⟨inst, hi, hinst⟩ := hi
      cases inst <;> cases hinst
      rw [ha.marks]
      refine .done (fun hm => hv ?_) hi
      rw [Thread.site, hs, ha.pos]
      exact (ha.sites _ _).mpr hm
  | @step v' t' t₁' inst' fin hv hi hfirst hp ih =>
    rcases ha.addr with ⟨ht, hs⟩ | hs
    · rw [hs, h.getElem?_fork] at hi
      obtain rfl := Option.some.inj hi
      cases hfirst with
      | head => exact ih hn (ha.into (by omega) ht hs)
      | tail _ hsecond =>
        -- the group is left out, and nothing was noted for it before
        obtain rfl := List.mem_singleton.mp hsecond.mem
        refine absurd ?_ hn
        rw [h.lookup_of_prefers hp (Nat.le_refl _)]
        exact ha.marks ▸ ha.silent (Nat.le_of_eq ht)
    · rw [hs, h.getElem?_shift, Option.map_eq_some_iff] at hi
      obtain ⟨inst, hi, rfl⟩ := hi
      rw [Thread.advance_relocate ha.pos ha.marks] at hfirst
      obtain ⟨t₁, rfl, hfirst₁⟩ := hfirst.of_map
      have ht₁ := ih hn (ha.step h hs hi hfirst₁.mem)
      refine .step (fun hm => hv ?_) hi (hfirst₁.restrict (fun x hx hleads => ?_) ht₁.leads) ht₁
      · rw [Thread.site, hs, ha.pos]
        exact (ha.sites _ _).mpr hm
      · have hsites := (ha.step h hs hi hx).sites
        exact h.leads_of_leads (fun y p => (hsites y p).mp) (fun p => ha.fork_insert hs) hleads

/-! ## Captures -/

/-- Where the group is not left out on the preferred way, this way was preferred before. -/
theorem execute_of_loosened (h : Loosened g c a a') (hf : execute a'.program text = some fin)
    (hn : fin.lookup (2 * g + 1) ≠ none) : execute a.program text = some fin := by
  obtain ⟨exit, pre, post, hbeside⟩ := h.beside_program
  rw [execute_eq_some_iff] at hf ⊢
  refine hbeside.prefers_of_prefers hf hn ⟨?_, rfl, rfl, by simp, by simp, fun _ => rfl⟩
  rcases Nat.eq_zero_or_pos pre.length with hzero | hpos
  · exact .inl ⟨hzero.symm, hzero.symm⟩
  · exact .inr (by simp [shift, hpos])

theorem Loosened.anywhere (h : Loosened g c a a') (hg : g ≠ 0) :
    Loosened g c a.anywhere a'.anywhere :=
  .seqRight (by simp [star, opt, groups]) (.group (Ne.symm hg) h)

/-- What an expression captures with an optional group that takes part is what it captures where the
group is not optional. -/
theorem captures_of_loosened (h : Loosened g c a a') (hg : g ≠ 0) {cs : Captures}
    (hc : a'.captures text = some cs) {place : Nat × Nat} (hp : cs[g]? = some (some place)) :
    a.captures text = some cs := by
  obtain ⟨fin, hfin, rfl⟩ := Option.map_eq_some_iff.mp hc
  have hplace : fin.place? g = some place := by
    change ((List.range (a'.groupCount + 1)).map fin.place?)[g]? = some (some place) at hp
    rw [List.getElem?_map, Option.map_eq_some_iff] at hp
    obtain ⟨i, hi, hplace⟩ := hp
    obtain ⟨_, rfl⟩ := List.getElem?_eq_some_iff.mp hi
    simpa using hplace
  have hn : fin.lookup (2 * g + 1) ≠ none := by
    rw [(Marks.notes_of_place? hplace).2]
    exact Option.some_ne_none _
  rw [captures, execute_of_loosened (h.anywhere hg) hfin hn, Option.map_some, h.groupCount_eq]

/-- What an expression captured somewhere it still captures in some way. -/
theorem captures_isSome_of_loosened (h : Loosened g c a a') (hc : (a.captures text).isSome) :
    (a'.captures text).isSome := by
  rw [captures_isSome_iff] at hc ⊢
  obtain ⟨i, j, m, hi, hm⟩ := hc
  exact ⟨i, j, m, hi, h.matches_of_matches hm⟩

end PathRoute.Regex
