import PathRoute.Proofs.Regex.Matching

/-!
# Programs do what expressions say

A thread of a program accepts if some way from it leads to the end. The code of an expression,
wherever it stands in a program, leads from its start to its exit exactly along the matches of the
expression. So a whole program
accepts exactly with the notes of a match: `accepts_program_iff`.
-/

namespace PathRoute.Regex

/-- The code stands in the program from an address on. -/
def Stands (prog : Program) (start : Nat) (code : Program) : Prop :=
  ∀ k, k < code.length → prog[start + k]? = code[k]?

namespace Stands

variable {prog c d : Program} {start : Nat} {inst : Inst}

theorem head (h : Stands prog start (inst :: c)) : prog[start]? = some inst :=
  h 0 (by simp)

theorem tail (h : Stands prog start (inst :: c)) : Stands prog (start + 1) c := by
  intro k hk
  have := h (k + 1) (by simpa using hk)
  rwa [List.getElem?_cons_succ, show start + (k + 1) = start + 1 + k by omega] at this

theorem left (h : Stands prog start (c ++ d)) : Stands prog start c := by
  intro k hk
  rw [h k (by simp; omega), List.getElem?_append_left hk]

theorem right (h : Stands prog start (c ++ d)) : Stands prog (start + c.length) d := by
  intro k hk
  rw [Nat.add_assoc, h (c.length + k) (by simp; omega),
    List.getElem?_append_right (Nat.le_add_right ..), Nat.add_sub_cancel_left]

end Stands

/-- Some way from the thread leads in a number of steps to the end, with these notes. -/
inductive Accepts (prog : Program) (text : List Char) : Nat → Thread → Marks → Prop where
  | done {t : Thread} : prog[t.addr]? = some .accept → Accepts prog text 0 t t.marks
  | step {t t' : Thread} {inst : Inst} {n : Nat} {fin : Marks} :
      prog[t.addr]? = some inst → t' ∈ t.advance text.toArray inst →
      Accepts prog text n t' fin → Accepts prog text (n + 1) t fin

variable {prog : Program} {text : List Char} {start next i n : Nat} {m fin : Marks}

theorem Accepts.advance {t : Thread} {inst : Inst} (h : Accepts prog text n t fin)
    (hi : prog[t.addr]? = some inst) (hne : inst ≠ .accept) :
    ∃ t' k, n = k + 1 ∧ t' ∈ t.advance text.toArray inst ∧ Accepts prog text k t' fin := by
  cases h with
  | done hd => exact absurd (Option.some.inj (hi.symm.trans hd)) hne
  | step hs ht h =>
    obtain rfl := Option.some.inj (hi.symm.trans hs)
    exact ⟨_, _, rfl, ht, h⟩

theorem mem_advance_char {t t' : Thread} {cls : CharClass} :
    t' ∈ t.advance text.toArray (.char cls next) ↔
      ∃ c, text[t.pos]? = some c ∧ cls.contains c = true ∧ t' = ⟨next, t.pos + 1, t.marks⟩ := by
  simp only [Thread.advance, List.getElem?_toArray]
  cases text[t.pos]? with
  | none => simp
  | some c => by_cases hc : cls.contains c <;> simp [hc]

theorem mem_advance_look {t t' : Thread} {l : Look} :
    t' ∈ t.advance text.toArray (.look l next) ↔
      l.holds (charBefore text t.pos) text[t.pos]? = true ∧ t' = ⟨next, t.pos, t.marks⟩ := by
  simp only [Thread.advance, List.getElem?_toArray, charBefore]
  split <;> simp_all

/-- A way from the start of an expression's code leads along a match to the exit. -/
theorem Accepts.through {a : Regex} (hs : Stands prog start (a.code start next))
    (h : Accepts prog text n ⟨start, i, m⟩ fin) :
    ∃ j m' k, k ≤ n ∧ Matches text a i j m' ∧ Accepts prog text k ⟨next, j, m' ++ m⟩ fin := by
  induction a generalizing start next n i m with
  | empty =>
    obtain ⟨t', k, rfl, ht, h⟩ := h.advance hs.head (by simp)
    simp only [Thread.advance, List.mem_singleton] at ht
    exact ⟨i, [], k, by omega, .empty, ht ▸ h⟩
  | char cls =>
    obtain ⟨t', k, rfl, ht, h⟩ := h.advance hs.head (by simp)
    obtain ⟨c, hc, hm, rfl⟩ := mem_advance_char.mp ht
    exact ⟨i + 1, [], k, by omega, .char hc hm, h⟩
  | look l =>
    obtain ⟨t', k, rfl, ht, h⟩ := h.advance hs.head (by simp)
    obtain ⟨hl, rfl⟩ := mem_advance_look.mp ht
    exact ⟨i, [], k, by omega, .look hl, h⟩
  | seq a b iha ihb =>
    obtain ⟨j, m₁, k, hk, ha, h⟩ := iha hs.left h
    obtain ⟨j', m₂, k', hk', hb, h⟩ := ihb (length_code a .. ▸ hs.right) h
    exact ⟨j', m₂ ++ m₁, k', by omega, .seq ha hb, by rwa [List.append_assoc]⟩
  | alt a b iha ihb =>
    obtain ⟨t', k, rfl, ht, h⟩ := h.advance hs.head (by simp)
    simp only [Thread.advance, List.mem_cons, List.not_mem_nil, or_false] at ht
    rcases ht with rfl | rfl
    · obtain ⟨j, m', k', hk, ha, h⟩ := iha hs.tail.left h
      exact ⟨j, m', k', by omega, .altFirst ha, h⟩
    · obtain ⟨j, m', k', hk, hb, h⟩ := ihb (length_code a .. ▸ hs.tail.right) h
      exact ⟨j, m', k', by omega, .altSecond hb, h⟩
  | plus greedy a ih =>
    -- every round takes at least the step that ends it
    induction n using Nat.strongRecOn generalizing i m with
    | ind n ihn =>
      obtain ⟨j, m₁, k, hk, ha, h⟩ := ih hs.left h
      have hloop := (length_code a .. ▸ hs.right).head
      obtain ⟨t', k', rfl, ht, h⟩ := h.advance hloop (by split <;> simp)
      have ht : t' = ⟨start, j, m₁ ++ m⟩ ∨ t' = ⟨next, j, m₁ ++ m⟩ := by
        cases greedy
        · simpa [Thread.advance, or_comm] using ht
        · simpa [Thread.advance] using ht
      rcases ht with rfl | rfl
      · obtain ⟨j', m₂, k'', hk', hb, h⟩ := ihn k' (by omega) h
        exact ⟨j', m₂ ++ m₁, k'', by omega, .more ha hb, by rwa [List.append_assoc]⟩
      · exact ⟨j, m₁, k', by omega, .once ha, h⟩
  | group x a ih =>
    obtain ⟨t', k, rfl, ht, h⟩ := h.advance hs.head (by simp)
    simp only [Thread.advance, List.mem_singleton] at ht
    subst ht
    obtain ⟨j, m', k', hk, ha, h⟩ := ih hs.tail.left h
    obtain ⟨t', k'', rfl, ht, h⟩ := h.advance (length_code a .. ▸ hs.tail.right).head (by simp)
    simp only [Thread.advance, List.mem_singleton] at ht
    subst ht
    exact ⟨j, _, k'', by omega, .group ha, by simpa using h⟩

/-- A match of an expression is a way through its code. -/
theorem Matches.accepts {a : Regex} {j : Nat} {m' : Marks} (ha : Matches text a i j m')
    (hs : Stands prog start (a.code start next))
    (h : Accepts prog text n ⟨next, j, m' ++ m⟩ fin) :
    ∃ k, Accepts prog text k ⟨start, i, m⟩ fin := by
  induction ha generalizing start next n m with
  | empty => exact ⟨_, .step hs.head (by simp [Thread.advance]) h⟩
  | char hc hm => exact ⟨_, .step hs.head (mem_advance_char.mpr ⟨_, hc, hm, rfl⟩) h⟩
  | look hl => exact ⟨_, .step hs.head (mem_advance_look.mpr ⟨hl, rfl⟩) h⟩
  | @seq a b i j k m₁ m₂ _ _ iha ihb =>
    obtain ⟨_, h⟩ := ihb (length_code a .. ▸ hs.right) (by rwa [← List.append_assoc])
    exact iha hs.left h
  | altFirst _ ih =>
    obtain ⟨_, h⟩ := ih hs.tail.left h
    exact ⟨_, .step hs.head (by simp [Thread.advance]) h⟩
  | @altSecond a b i j m₁ _ ih =>
    obtain ⟨_, h⟩ := ih (length_code a .. ▸ hs.tail.right) h
    exact ⟨_, .step hs.head (by simp [Thread.advance]) h⟩
  | @once greedy a i j m₁ _ ih =>
    have hloop := (length_code a .. ▸ hs.right).head
    exact ih hs.left (.step hloop (by cases greedy <;> simp [Thread.advance]) h)
  | @more greedy a i j k m₁ m₂ _ _ iha ihb =>
    have hloop := (length_code a .. ▸ hs.right).head
    obtain ⟨_, h⟩ := ihb hs (by rwa [← List.append_assoc])
    exact iha hs.left (.step hloop (by cases greedy <;> simp [Thread.advance]) h)
  | @group x a i j m₁ _ ih =>
    have hexit := (length_code a .. ▸ hs.tail.right).head
    have hlast : Accepts prog text (_ + 1) ⟨start + 1 + a.size, j, m₁ ++ (2 * x, i) :: m⟩ fin :=
      .step hexit (List.mem_singleton_self _) (by simpa using h)
    obtain ⟨_, h⟩ := ih hs.tail.left hlast
    exact ⟨_, .step hs.head (List.mem_singleton_self _) h⟩

/-- A program accepts from its start exactly with the notes of a match. -/
theorem accepts_program_iff {a : Regex} :
    (∃ n, Accepts a.program text n ⟨0, i, []⟩ fin) ↔ ∃ j, Matches text a i j fin := by
  have hcode : Stands a.program 0 (a.code 0 a.size) := by
    intro k hk
    rw [program, List.getElem?_append_left (by simpa using hk), Nat.zero_add]
  have hend : a.program[a.size]? = some .accept := by
    rw [program, List.getElem?_append_right (by simp)]
    simp
  constructor
  · rintro ⟨n, h⟩
    obtain ⟨j, m', k, -, ha, h⟩ := h.through hcode
    cases h with
    | done => exact ⟨j, by simpa using ha⟩
    | step hs ht _ =>
      obtain rfl := Option.some.inj (hend.symm.trans hs)
      simp [Thread.advance] at ht
  · rintro ⟨j, ha⟩
    exact ha.accepts hcode (by simpa using Accepts.done (t := ⟨a.size, j, fin⟩) hend)

end PathRoute.Regex
