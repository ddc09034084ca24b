import PathRoute.Proofs.Regex.Erasure

/-!
# Moving code

The code of an expression is the same at every address, up to the addresses in it. Where its
instructions lead and what they note is told by the expression: no further than to its exit, and
only places of its own groups.
-/

namespace PathRoute.Regex

variable {text : List Char} {a : Regex} {start next slot x : Nat} {inst : Inst}
  {t t' : Thread} {f : Nat → Nat}

namespace Inst

/-- The instruction with other addresses to go on at. -/
def relocate (f : Nat → Nat) : Inst → Inst
  | .char a next => .char a (f next)
  | .look l next => .look l (f next)
  | .jump next => .jump (f next)
  | .split first second => .split (f first) (f second)
  | .save slot next => .save slot (f next)
  | .accept => .accept

/-- The addresses to go on at. -/
def targets : Inst → List Nat
  | .char _ next | .look _ next | .jump next | .save _ next => [next]
  | .split first second => [first, second]
  | .accept => []

theorem mem_targets_split {first second : Nat} :
    x ∈ (split first second).targets ↔ x = first ∨ x = second := by
  simp [targets]

/-- The slot under which a position is noted. -/
def slot? : Inst → Option Nat
  | .save slot _ => some slot
  | _ => none

@[simp] theorem slot?_relocate : (inst.relocate f).slot? = inst.slot? := by cases inst <;> rfl

@[simp] theorem targets_relocate : (inst.relocate f).targets = inst.targets.map f := by
  cases inst <;> rfl

end Inst

/-! ## Steps -/

/-- The thread at another address. -/
def Thread.relocate (f : Nat → Nat) (t : Thread) : Thread := { t with addr := f t.addr }

/-- What a step does depends on the instruction and not on its address. -/
theorem Thread.advance_relocate (h : t'.pos = t.pos) (hm : t'.marks = t.marks) :
    t'.advance text.toArray (inst.relocate f) =
      (t.advance text.toArray inst).map (Thread.relocate f) := by
  cases inst with
  | char cls next =>
    simp only [Inst.relocate, advance, h, hm]
    split
    · split <;> rfl
    · rfl
  | look l next =>
    simp only [Inst.relocate, advance, h, hm]
    split <;> split <;> rfl
  | jump | split | save | accept => simp [Inst.relocate, advance, relocate, h, hm]

theorem addr_mem_targets (h : t' ∈ t.advance text.toArray inst) : t'.addr ∈ inst.targets := by
  cases inst with
  | char cls next =>
    obtain ⟨_, -, -, rfl⟩ := mem_advance_char.mp h
    exact List.mem_singleton_self _
  | look l next =>
    obtain ⟨-, rfl⟩ := mem_advance_look.mp h
    exact List.mem_singleton_self _
  | jump | split | save => simp_all [Thread.advance, Inst.targets] <;> grind
  | accept => cases h

/-- A step changes no note but that of its own slot. -/
theorem lookup_of_mem_advance (h : t' ∈ t.advance text.toArray inst)
    (hslot : inst.slot? ≠ some slot) : t'.marks.lookup slot = t.marks.lookup slot := by
  cases inst with
  | char cls next =>
    obtain ⟨_, -, -, rfl⟩ := mem_advance_char.mp h
    rfl
  | look l next =>
    obtain ⟨-, rfl⟩ := mem_advance_look.mp h
    rfl
  | jump | split => simp_all [Thread.advance] <;> grind
  | save other next =>
    obtain rfl := List.mem_singleton.mp h
    have hne : (slot == other) = false := by
      rw [beq_eq_false_iff_ne]
      rintro rfl
      exact hslot rfl
    rw [List.lookup_cons, hne]
  | accept => cases h

/-! ## Code -/

theorem size_pos (a : Regex) : 0 < a.size := by
  induction a with
  | empty | char | look => exact Nat.one_pos
  | seq _ _ iha _ => exact Nat.add_pos_left iha _
  | alt | plus | group => exact Nat.succ_pos _

/-- Code that is moved is the code at the new address. -/
theorem map_relocate_code (start' : Nat) (hf : ∀ k < a.size, f (start + k) = start' + k) :
    (a.code start next).map (Inst.relocate f) = a.code start' (f next) := by
  induction a generalizing start start' next with
  | empty | char | look => rfl
  | seq a b iha ihb =>
    have hb := b.size_pos
    rw [size] at hf
    have hmid : f (start + a.size) = start' + a.size := hf _ (by omega)
    rw [code, List.map_append, iha start' fun k hk => hf k (by omega), hmid,
      ihb (start' + a.size), code]
    intro k hk
    rw [Nat.add_assoc, hf _ (by omega), Nat.add_assoc]
  | alt a b iha ihb =>
    have ha := a.size_pos
    have hb := b.size_pos
    rw [size] at hf
    have hfirst : f (start + 1) = start' + 1 := hf _ (by omega)
    have hsecond : f (start + 1 + a.size) = start' + 1 + a.size := by
      rw [Nat.add_assoc, hf _ (by omega), Nat.add_assoc]
    rw [code, List.map_cons, List.map_append, iha (start' + 1),
      ihb (start' + 1 + a.size), Inst.relocate, hfirst, hsecond, code]
    · intro k hk
      rw [show start + 1 + a.size + k = start + (1 + a.size + k) by omega, hf _ (by omega)]
      omega
    · intro k hk
      rw [Nat.add_assoc, hf _ (by omega), Nat.add_assoc]
  | plus greedy a ih =>
    have ha := a.size_pos
    rw [size] at hf
    have hstart : f start = start' := hf 0 (by omega)
    rw [code, List.map_append, ih start' fun k hk => hf k (by omega), hf _ (by omega), code]
    cases greedy <;> simp [Inst.relocate, hstart]
  | group i a ih =>
    rw [size] at hf
    have hfirst : f (start + 1) = start' + 1 := hf _ (by omega)
    have hlast : f (start + 1 + a.size) = start' + 1 + a.size := by
      rw [Nat.add_assoc, hf _ (by omega), Nat.add_assoc]
    rw [code, List.map_cons, List.map_append, ih (start' + 1), hlast, Inst.relocate,
      hfirst, code]
    · rfl
    · intro k hk
      rw [Nat.add_assoc, hf _ (by omega), Nat.add_assoc]

/-- Code leads on within itself or to its exit. -/
theorem target_of_mem_code (h : inst ∈ a.code start next) (hx : x ∈ inst.targets) :
    x = next ∨ start ≤ x ∧ x < start + a.size := by
  induction a generalizing start next with
  | empty | char | look =>
    obtain rfl := List.mem_singleton.mp h
    exact .inl (List.mem_singleton.mp hx)
  | seq a b iha ihb =>
    have hb := b.size_pos
    rw [size]
    rcases List.mem_append.mp h with h | h
    · rcases iha h with rfl | h <;> omega
    · rcases ihb h with rfl | h <;> omega
  | alt a b iha ihb =>
    have ha := a.size_pos
    have hb := b.size_pos
    rw [size]
    rcases List.mem_cons.mp h with rfl | h
    · rcases Inst.mem_targets_split.mp hx with rfl | rfl <;> omega
    · rcases List.mem_append.mp h with h | h
      · rcases iha h with rfl | h <;> omega
      · rcases ihb h with rfl | h <;> omega
  | plus greedy a ih =>
    have ha := a.size_pos
    rw [size]
    rcases List.mem_append.mp h with h | h
    · rcases ih h with rfl | h <;> omega
    · obtain rfl := List.mem_singleton.mp h
      cases greedy <;> rcases Inst.mem_targets_split.mp hx with rfl | rfl <;> omega
  | group i a ih =>
    rw [size]
    rcases List.mem_cons.mp h with rfl | h
    · obtain rfl := List.mem_singleton.mp hx
      omega
    · rcases List.mem_append.mp h with h | h
      · rcases ih h with rfl | h <;> omega
      · obtain rfl := List.mem_singleton.mp h
        obtain rfl := List.mem_singleton.mp hx
        exact .inl rfl

/-- Code notes places of its own groups only. -/
theorem slot_of_mem_code (h : inst ∈ a.code start next) (hs : inst.slot? = some slot) :
    slot / 2 ∈ a.groups := by
  induction a generalizing start next with
  | empty | char | look =>
    obtain rfl := List.mem_singleton.mp h
    cases hs
  | seq a b iha ihb =>
    exact (List.mem_append.mp h).elim (fun h => List.mem_append_left _ (iha h))
      (fun h => List.mem_append_right _ (ihb h))
  | alt a b iha ihb =>
    rcases List.mem_cons.mp h with rfl | h
    · cases hs
    · exact (List.mem_append.mp h).elim (fun h => List.mem_append_left _ (iha h))
        (fun h => List.mem_append_right _ (ihb h))
  | plus greedy a ih =>
    rcases List.mem_append.mp h with h | h
    · exact ih h
    · obtain rfl := List.mem_singleton.mp h
      cases greedy <;> cases hs
  | group i a ih =>
    rw [groups]
    rcases List.mem_cons.mp h with rfl | h
    · obtain rfl := Option.some.inj hs
      simp
    · rcases List.mem_append.mp h with h | h
      · exact List.mem_cons_of_mem _ (ih h)
      · obtain rfl := List.mem_singleton.mp h
        obtain rfl := Option.some.inj hs
        rw [show (2 * i + 1) / 2 = i by omega]
        exact List.mem_cons_self

end PathRoute.Regex
