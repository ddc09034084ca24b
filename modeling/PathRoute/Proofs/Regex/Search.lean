import PathRoute.Proofs.Regex.Execution

/-!
# The search finds a match if there is one

The search follows one way after the other and gives up what it has tried before. What has been
tried is closed under steps, up to what is still to be tried, and nothing in it is the end: so when
nothing is left to be tried, no way led to the end. The main statements are about the captures of
an expression: `captures_eq_some`, that they are those of a match, and `captures_isSome_iff`, that
there are some whenever something matches.
-/

namespace PathRoute.Regex

variable {prog : Program} {text : List Char} {fin : Marks}

/-- What the search finds is where one of its threads leads. -/
theorem accepts_of_explore {visited : Visited} {ts : List Thread}
    (h : explore prog.toArray text.toArray visited ts = some fin) :
    ∃ t ∈ ts, ∃ n, Accepts prog text n t fin := by
  generalize hp : prog.toArray = p, hx : text.toArray = x at h
  fun_induction explore p x visited ts with
  | case1 => cases h
  | case2 _ t rest _ _ hi =>
    obtain rfl := Option.some.inj h
    subst hp
    exact ⟨t, List.mem_cons_self, 0, .done (by simpa using hi)⟩
  | case3 _ t rest _ _ inst _ hi ih =>
    obtain ⟨s, hs, n, hn⟩ := ih h
    rcases List.mem_append.mp hs with hs | hs
    · subst hp hx
      exact ⟨t, List.mem_cons_self, n + 1, .step (by simpa using hi) hs hn⟩
    · exact ⟨s, List.mem_cons_of_mem _ hs, n, hn⟩
  | case4 _ t rest _ _ _ ih | case5 _ t rest _ _ ih | case6 _ t rest _ ih =>
    obtain ⟨s, hs, hn⟩ := ih h
    exact ⟨s, List.mem_cons_of_mem _ hs, hn⟩

/-! ## What has been tried -/

/-- The address and the position have been tried together. -/
def Tried (text : List Char) (visited : Visited) (addr pos : Nat) : Prop :=
  visited[addr * (text.length + 1) + pos]? = some true

/-- The numbers of different pairs of an address and a position are different. -/
theorem key_inj {width a b i j : Nat} (hi : i < width) (hj : j < width)
    (h : a * width + i = b * width + j) : a = b ∧ i = j := by
  have hmod : i = j := by
    have := congrArg (· % width) h
    simpa [Nat.mul_add_mod_self_right, Nat.mod_eq_of_lt, hi, hj] using this
  subst hmod
  have : a * width = b * width := by omega
  exact ⟨Nat.eq_of_mul_eq_mul_right (by omega) this, rfl⟩

/-- What has been tried stays so. -/
theorem Tried.set {visited : Visited} {addr pos k : Nat} (h : Tried text visited addr pos)
    (hk : k < visited.size) : Tried text (visited.set k true hk) addr pos := by
  unfold Tried at h ⊢
  rw [Array.getElem?_set]
  split
  · rfl
  · exact h

/-- When a thread is noted as tried, nothing else is. -/
theorem tried_set_iff {visited : Visited} {t : Thread} {addr pos : Nat}
    (ht : t.pos ≤ text.length) (hp : pos ≤ text.length)
    (hk : t.addr * (text.length + 1) + t.pos < visited.size) :
    Tried text (visited.set (t.addr * (text.length + 1) + t.pos) true hk) addr pos ↔
      (addr = t.addr ∧ pos = t.pos) ∨ Tried text visited addr pos := by
  constructor
  · intro h
    rw [Tried, Array.getElem?_set] at h
    split at h <;> rename_i heq
    · obtain ⟨ha, hp⟩ := key_inj (by omega) (by omega) heq
      exact .inl ⟨ha.symm, hp.symm⟩
    · exact .inr h
  · rintro (⟨rfl, rfl⟩ | h)
    · simp [Tried]
    · exact h.set hk

/-- Nothing more has to be done for the address and the position than for the threads that wait. -/
def Settled (prog : Program) (text : List Char) (visited : Visited) (ts : List Thread)
    (addr pos : Nat) : Prop :=
  prog.length ≤ addr ∨ Tried text visited addr pos ∨ ∃ s ∈ ts, s.addr = addr ∧ s.pos = pos

/-- What has been tried did not end, and all that it led to is settled. -/
structure Closed (prog : Program) (text : List Char) (visited : Visited) (ts : List Thread) :
    Prop where
  size_eq : visited.size = prog.length * (text.length + 1)
  pos_le : ∀ t ∈ ts, t.pos ≤ text.length
  ne_accept : ∀ t : Thread, t.pos ≤ text.length → Tried text visited t.addr t.pos →
    prog[t.addr]? ≠ some .accept
  settled : ∀ (t t' : Thread) (inst : Inst), t.pos ≤ text.length →
    Tried text visited t.addr t.pos → prog[t.addr]? = some inst →
    t' ∈ t.advance text.toArray inst → Settled prog text visited ts t'.addr t'.pos

theorem Thread.pos_le_of_mem_advance {t t' : Thread} {inst : Inst} (ht : t.pos ≤ text.length)
    (h : t' ∈ t.advance text.toArray inst) : t'.pos ≤ text.length := by
  cases inst with
  | char cls next =>
    obtain ⟨c, hc, -, rfl⟩ := mem_advance_char.mp h
    exact (List.getElem?_eq_some_iff.mp hc).1
  | look l next =>
    obtain ⟨-, rfl⟩ := mem_advance_look.mp h
    exact ht
  | jump | save =>
    obtain rfl := List.mem_singleton.mp h
    exact ht
  | split =>
    simp only [advance, List.mem_cons, List.not_mem_nil, or_false] at h
    rcases h with rfl | rfl <;> exact ht
  | accept => cases h

/-- Where a step leads does not depend on the notes. -/
theorem Thread.exists_mem_advance {s t t' : Thread} {inst : Inst} (hpos : s.pos = t.pos)
    (h : t' ∈ t.advance text.toArray inst) :
    ∃ s' ∈ s.advance text.toArray inst, s'.addr = t'.addr ∧ s'.pos = t'.pos := by
  cases inst with
  | char cls next =>
    obtain ⟨c, hc, hm, rfl⟩ := mem_advance_char.mp h
    exact ⟨_, mem_advance_char.mpr ⟨c, hpos ▸ hc, hm, rfl⟩, rfl, by simp [hpos]⟩
  | look l next =>
    obtain ⟨hl, rfl⟩ := mem_advance_look.mp h
    exact ⟨_, mem_advance_look.mpr ⟨hpos ▸ hl, rfl⟩, rfl, hpos⟩
  | jump | save =>
    obtain rfl := List.mem_singleton.mp h
    exact ⟨_, List.mem_singleton_self _, rfl, hpos⟩
  | split =>
    simp only [advance, List.mem_cons, List.not_mem_nil, or_false] at h
    rcases h with rfl | rfl
    · exact ⟨_, List.mem_cons_self, rfl, hpos⟩
    · exact ⟨_, List.mem_cons_of_mem _ (List.mem_singleton_self _), rfl, hpos⟩
  | accept => cases h

namespace Closed

variable {visited : Visited} {t : Thread} {ts : List Thread}

/-- A thread that is settled without itself may be dropped. -/
theorem drop (h : Closed prog text visited (t :: ts))
    (ht : Settled prog text visited ts t.addr t.pos) :
    Closed prog text visited ts ∧ ∀ {addr pos : Nat},
      Settled prog text visited (t :: ts) addr pos → Settled prog text visited ts addr pos := by
  have hdrop : ∀ {addr pos : Nat}, Settled prog text visited (t :: ts) addr pos →
      Settled prog text visited ts addr pos := by
    rintro addr pos (ho | hv | ⟨s, hs, rfl, rfl⟩)
    · exact .inl ho
    · exact .inr (.inl hv)
    · rcases List.mem_cons.mp hs with rfl | hs
      · exact ht
      · exact .inr (.inr ⟨s, hs, rfl, rfl⟩)
  exact ⟨⟨h.size_eq, fun s hs => h.pos_le s (List.mem_cons_of_mem _ hs), h.ne_accept,
    fun s s' inst hp hv hi hm => hdrop (h.settled s s' inst hp hv hi hm)⟩, hdrop⟩

/-- A thread may be carried on by one step when it is noted as tried. -/
theorem advance {inst : Inst} (h : Closed prog text visited (t :: ts))
    (hk : t.addr * (text.length + 1) + t.pos < visited.size) (hi : prog[t.addr]? = some inst)
    (hne : inst ≠ .accept) :
    Closed prog text (visited.set (t.addr * (text.length + 1) + t.pos) true hk)
        (t.advance text.toArray inst ++ ts) ∧
      ∀ {addr pos : Nat}, Settled prog text visited (t :: ts) addr pos →
        Settled prog text (visited.set (t.addr * (text.length + 1) + t.pos) true hk)
          (t.advance text.toArray inst ++ ts) addr pos := by
  have htp : t.pos ≤ text.length := h.pos_le t List.mem_cons_self
  have hsettled : ∀ {addr pos : Nat}, Settled prog text visited (t :: ts) addr pos →
      Settled prog text (visited.set (t.addr * (text.length + 1) + t.pos) true hk)
        (t.advance text.toArray inst ++ ts) addr pos := by
    rintro addr pos (ho | hv | ⟨s, hs, rfl, rfl⟩)
    · exact .inl ho
    · exact .inr (.inl (hv.set hk))
    · rcases List.mem_cons.mp hs with rfl | hs
      · exact .inr (.inl (by simp [Tried]))
      · exact .inr (.inr ⟨s, List.mem_append_right _ hs, rfl, rfl⟩)
  refine ⟨⟨by simpa using h.size_eq, ?_, ?_, ?_⟩, hsettled⟩
  · intro s hs
    rcases List.mem_append.mp hs with hs | hs
    · exact Thread.pos_le_of_mem_advance htp hs
    · exact h.pos_le s (List.mem_cons_of_mem _ hs)
  · intro s hp hv
    rcases (tried_set_iff htp hp hk).mp hv with ⟨ha, -⟩ | hv
    · rw [ha, hi]
      simpa using hne
    · exact h.ne_accept s hp hv
  · intro s s' inst' hp hv hi' hm
    rcases (tried_set_iff htp hp hk).mp hv with ⟨ha, hpos⟩ | hv
    · obtain rfl : inst = inst' := Option.some.inj (hi.symm.trans (ha ▸ hi'))
      obtain ⟨t', ht', hta, htp'⟩ := Thread.exists_mem_advance (s := t) hpos.symm hm
      exact .inr (.inr ⟨t', List.mem_append_left _ ht', hta, htp'⟩)
    · exact hsettled (h.settled s s' inst' hp hv hi' hm)

/-- When nothing waits, what is settled does not lead to the end. -/
theorem not_accepts (h : Closed prog text visited []) {n : Nat} (hp : t.pos ≤ text.length)
    (hs : Settled prog text visited [] t.addr t.pos) : ¬ Accepts prog text n t fin := by
  intro ha
  induction ha with
  | @done t hd =>
    rcases hs with ho | hv | ⟨_, hs, _⟩
    · rw [List.getElem?_eq_none ho] at hd
      cases hd
    · exact h.ne_accept t hp hv hd
    · cases hs
  | @step t t' inst n fin hi hm _ ih =>
    rcases hs with ho | hv | ⟨_, hs, _⟩
    · rw [List.getElem?_eq_none ho] at hi
      cases hi
    · exact ih (Thread.pos_le_of_mem_advance hp hm) (h.settled t t' inst hp hv hi hm)
    · cases hs

end Closed

/-- When the search finds nothing, nothing that is settled leads to the end. -/
theorem not_accepts_of_explore {visited : Visited} {ts : List Thread} {t : Thread} {n : Nat}
    (h : explore prog.toArray text.toArray visited ts = none)
    (hc : Closed prog text visited ts) (hp : t.pos ≤ text.length)
    (hs : Settled prog text visited ts t.addr t.pos) : ¬ Accepts prog text n t fin := by
  generalize hp' : prog.toArray = p, hx : text.toArray = x at h
  fun_induction explore p x visited ts with
  | case1 => exact hc.not_accepts hp hs
  | case2 => cases h
  | case3 _ u rest hk _ inst hne hi ih =>
    subst hp' hx
    have := hc.advance (by simpa [Thread.key] using hk) (by simpa using hi) hne
    exact ih (by simpa [Thread.key] using this.1) (by simpa [Thread.key] using this.2 hs) h
  | case4 _ u rest _ _ hi ih =>
    subst hp'
    have := hc.drop (.inl (by simpa using hi))
    exact ih this.1 (this.2 hs) h
  | case5 _ u rest hk hv ih =>
    subst hx
    have htried : Tried text _ u.addr u.pos :=
      Array.getElem?_eq_some_iff.mpr ⟨hk, Bool.of_not_eq_false hv⟩
    have := hc.drop (.inr (.inl htried))
    exact ih this.1 (this.2 hs) h
  | case6 _ u rest hk ih =>
    subst hx
    have hout : prog.length ≤ u.addr := by
      refine Nat.le_of_not_lt fun hlt => hk ?_
      have hu := hc.pos_le u List.mem_cons_self
      have : (u.addr + 1) * (text.length + 1) ≤ prog.length * (text.length + 1) :=
        Nat.mul_le_mul_right _ (by omega)
      simp only [Thread.key, List.size_toArray, hc.size_eq, Nat.succ_mul] at this ⊢
      omega
    have := hc.drop (.inl hout)
    exact ih this.1 (this.2 hs) h

/-! ## Executing a program -/

/-- A program is executed with success exactly when its start leads to the end. -/
theorem execute_isSome_iff :
    (execute prog text).isSome ↔ ∃ fin n, Accepts prog text n ⟨0, 0, []⟩ fin := by
  constructor
  · intro h
    obtain ⟨fin, h⟩ := Option.isSome_iff_exists.mp h
    obtain ⟨t, ht, n, hn⟩ := accepts_of_explore h
    rw [List.mem_singleton.mp ht] at hn
    exact ⟨fin, n, hn⟩
  · rintro ⟨fin, n, h⟩
    rw [Option.isSome_iff_ne_none]
    intro hnone
    refine not_accepts_of_explore hnone ⟨by simp, by simp, ?_, ?_⟩ (Nat.zero_le _) ?_ h
    · intro t _ hv
      simp [Tried, Array.getElem?_replicate] at hv
    · intro t _ _ _ hv
      simp [Tried, Array.getElem?_replicate] at hv
    · exact .inr (.inr ⟨_, List.mem_singleton_self _, rfl, rfl⟩)

theorem accepts_of_execute (h : execute prog text = some fin) :
    ∃ n, Accepts prog text n ⟨0, 0, []⟩ fin := by
  obtain ⟨t, ht, hn⟩ := accepts_of_explore h
  rwa [List.mem_singleton.mp ht] at hn

/-! ## Captures -/

variable {a : Regex} {i j : Nat} {m : Marks}

/-- Skipping to where a match may begin. -/
theorem Matches.skip_iff :
    Matches text (star false (.char .any)) i j m ↔ i ≤ j ∧ (i < j → j ≤ text.length) ∧ m = [] := by
  rw [star, opt_iff, plus_char_iff]
  constructor
  · rintro (⟨hlt, rfl, hall⟩ | ⟨rfl, rfl⟩)
    · obtain ⟨c, hc, -⟩ := hall (j - 1) (by omega) (by omega)
      have := (List.getElem?_eq_some_iff.mp hc).1
      exact ⟨by omega, by omega, rfl⟩
    · exact ⟨Nat.le_refl i, by omega, rfl⟩
  · rintro ⟨hle, hlen, rfl⟩
    rcases Nat.eq_or_lt_of_le hle with rfl | hlt
    · exact .inr ⟨rfl, rfl⟩
    · refine .inl ⟨hlt, rfl, fun k _ hk => ?_⟩
      have hk : k < text.length := by have := hlen hlt; omega
      exact ⟨text[k], List.getElem?_eq_getElem hk, CharClass.contains_any _⟩

theorem Matches.anywhere_iff :
    Matches text a.anywhere 0 j m ↔
      ∃ i n, i ≤ text.length ∧ Matches text a i j n ∧ m = (1, j) :: (n ++ [(0, i)]) := by
  rw [anywhere, seq_iff]
  constructor
  · rintro ⟨i, _, _, hskip, hg, rfl⟩
    obtain ⟨hi, hlen, rfl⟩ := skip_iff.mp hskip
    obtain ⟨n, ha, rfl⟩ := group_iff.mp hg
    exact ⟨i, n, by omega, ha, by simp⟩
  · rintro ⟨i, n, hi, ha, rfl⟩
    exact ⟨i, [], _, skip_iff.mpr ⟨Nat.zero_le i, fun _ => hi, rfl⟩, .group ha, by simp⟩

/-- The captures of an expression are those of one of its matches. -/
theorem captures_eq_some {cs : Captures} (h : a.captures text = some cs) :
    ∃ i j m, i ≤ text.length ∧ Matches text a i j m ∧
      cs = Marks.captures ((1, j) :: (m ++ [(0, i)])) a.groupCount := by
  obtain ⟨fin, hfin, rfl⟩ := Option.map_eq_some_iff.mp h
  obtain ⟨j, hj⟩ := accepts_program_iff.mp (accepts_of_execute hfin)
  obtain ⟨i, m, hi, hm, rfl⟩ := Matches.anywhere_iff.mp hj
  exact ⟨i, j, m, hi, hm, rfl⟩

/-- There are captures exactly when the expression matches somewhere. -/
theorem captures_isSome_iff :
    (a.captures text).isSome ↔ ∃ i j m, i ≤ text.length ∧ Matches text a i j m := by
  rw [captures, Option.isSome_map, execute_isSome_iff]
  constructor
  · rintro ⟨fin, n, h⟩
    obtain ⟨j, hj⟩ := accepts_program_iff.mp ⟨n, h⟩
    obtain ⟨i, m, hi, hm, -⟩ := Matches.anywhere_iff.mp hj
    exact ⟨i, j, m, hi, hm⟩
  · rintro ⟨i, j, m, hi, hm⟩
    exact ⟨_, accepts_program_iff.mpr ⟨j, Matches.anywhere_iff.mpr ⟨i, m, hi, hm, rfl⟩⟩⟩

end PathRoute.Regex
