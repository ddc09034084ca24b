import PathRoute.Proofs.Regex.Search

/-!
# What an expression matches as a whole

Groups only take notes: an expression without its groups matches the same stretches of text. So
what an expression matches as a whole is told by the expression with its groups erased. The numbers
of the groups are kept apart, as a list.
-/

namespace PathRoute.Regex

/-- The expression without its groups. -/
def erase : Regex → Regex
  | .empty => .empty
  | .char a => .char a
  | .look l => .look l
  | .seq a b => .seq a.erase b.erase
  | .alt a b => .alt a.erase b.erase
  | .plus greedy a => .plus greedy a.erase
  | .group _ a => a.erase

/-- The numbers of the groups, from left to right. -/
def groups : Regex → List Nat
  | .empty | .char _ | .look _ => []
  | .seq a b | .alt a b => a.groups ++ b.groups
  | .plus _ a => a.groups
  | .group i a => i :: a.groups

variable {a b : Regex} {as bs : List Regex} {greedy : Bool} {g : Nat}

/-! ## Putting expressions together -/

theorem erase_seqs : (seqs as).erase = seqs (as.map erase) := by
  induction as with
  | nil => rfl
  | cons a as ih =>
    cases as with
    | nil => rfl
    | cons b as => exact congrArg (Regex.seq a.erase) ih

theorem erase_alts : (alts as).erase = alts (as.map erase) := by
  induction as with
  | nil => rfl
  | cons a as ih =>
    cases as with
    | nil => rfl
    | cons b as => exact congrArg (Regex.alt a.erase) ih

theorem erase_opt : (opt greedy a).erase = opt greedy a.erase := by
  cases greedy <;> rfl

theorem erase_exactly (n : Nat) : (exactly a n).erase = exactly a.erase n := by
  induction n with
  | zero => rfl
  | succ n ih =>
    cases n with
    | zero => rfl
    | succ n => exact congrArg (Regex.seq a.erase) ih

theorem erase_upTo (n : Nat) : (upTo greedy a n).erase = upTo greedy a.erase n := by
  induction n with
  | zero => rfl
  | succ n ih =>
    cases n with
    | zero => exact erase_opt
    | succ n => rw [upTo, upTo, erase_opt, erase, ih]

theorem erase_atLeast (n : Nat) : (atLeast greedy a n).erase = atLeast greedy a.erase n := by
  induction n with
  | zero => exact erase_opt
  | succ n ih =>
    cases n with
    | zero => rfl
    | succ n => exact congrArg (Regex.seq a.erase) ih

theorem erase_repeats (min : Nat) (max : Option Nat) :
    (repeats greedy a min max).erase = repeats greedy a.erase min max := by
  cases max with
  | none => exact erase_atLeast min
  | some max =>
    simp only [repeats]
    split
    · exact erase_upTo max
    · split
      · exact erase_exactly min
      · rw [erase, erase_exactly, erase_upTo]

theorem mem_groups_seqs : g ∈ (seqs as).groups ↔ ∃ a ∈ as, g ∈ a.groups := by
  induction as with
  | nil => simp [seqs, groups]
  | cons a as ih =>
    cases as with
    | nil => simp [seqs]
    | cons b as =>
      change g ∈ a.groups ++ (seqs (b :: as)).groups ↔ _
      rw [List.mem_append, ih]
      simp

theorem mem_groups_alts : g ∈ (alts as).groups ↔ ∃ a ∈ as, g ∈ a.groups := by
  induction as with
  | nil => simp [alts, groups]
  | cons a as ih =>
    cases as with
    | nil => simp [alts]
    | cons b as =>
      change g ∈ a.groups ++ (alts (b :: as)).groups ↔ _
      rw [List.mem_append, ih]
      simp

theorem groups_opt : (opt greedy a).groups = a.groups := by
  cases greedy <;> simp [opt, groups]

theorem mem_of_mem_groups_exactly {n : Nat} (h : g ∈ (exactly a n).groups) : g ∈ a.groups := by
  induction n with
  | zero => cases h
  | succ n ih =>
    cases n with
    | zero => exact h
    | succ n => exact (List.mem_append.mp h).elim id ih

theorem mem_of_mem_groups_upTo {n : Nat} (h : g ∈ (upTo greedy a n).groups) : g ∈ a.groups := by
  induction n with
  | zero => cases h
  | succ n ih =>
    cases n with
    | zero => rwa [upTo, groups_opt] at h
    | succ n =>
      rw [upTo, groups_opt] at h
      exact (List.mem_append.mp h).elim id ih

theorem mem_of_mem_groups_atLeast {n : Nat} (h : g ∈ (atLeast greedy a n).groups) :
    g ∈ a.groups := by
  induction n with
  | zero => rwa [atLeast, star, groups_opt] at h
  | succ n ih =>
    cases n with
    | zero => exact h
    | succ n => exact (List.mem_append.mp h).elim id ih

/-- A repetition has the groups of what it repeats, or none. -/
theorem mem_of_mem_groups_repeats {min : Nat} {max : Option Nat}
    (h : g ∈ (repeats greedy a min max).groups) : g ∈ a.groups := by
  cases max with
  | none => exact mem_of_mem_groups_atLeast h
  | some max =>
    simp only [repeats] at h
    split at h
    · exact mem_of_mem_groups_upTo h
    · split at h
      · exact mem_of_mem_groups_exactly h
      · exact (List.mem_append.mp h).elim mem_of_mem_groups_exactly mem_of_mem_groups_upTo

/-- No group has a greater number than the count. -/
theorem le_groupCount (h : g ∈ a.groups) : g ≤ a.groupCount := by
  induction a with
  | empty | char | look => cases h
  | seq a b iha ihb | alt a b iha ihb =>
    rcases List.mem_append.mp h with h | h
    · exact Nat.le_trans (iha h) (Nat.le_max_left ..)
    · exact Nat.le_trans (ihb h) (Nat.le_max_right ..)
  | plus _ a ih => exact ih h
  | group i a ih =>
    rcases List.mem_cons.mp h with rfl | h
    · exact Nat.le_max_left ..
    · exact Nat.le_trans (ih h) (Nat.le_max_right ..)

theorem groupCount_eq_zero (h : a.groups = []) : a.groupCount = 0 := by
  induction a with
  | empty | char | look => rfl
  | seq a b iha ihb | alt a b iha ihb =>
    obtain ⟨ha, hb⟩ := List.append_eq_nil_iff.mp h
    simp [groupCount, iha ha, ihb hb]
  | plus _ a ih => exact ih h
  | group => cases h

theorem erase_eq_self (h : a.groups = []) : a.erase = a := by
  induction a with
  | empty | char | look => rfl
  | seq a b iha ihb | alt a b iha ihb =>
    obtain ⟨ha, hb⟩ := List.append_eq_nil_iff.mp h
    rw [erase, iha ha, ihb hb]
  | plus _ a ih => rw [erase, ih h]
  | group => cases h

theorem groups_erase (a : Regex) : a.erase.groups = [] := by
  induction a with
  | empty | char | look => rfl
  | seq a b iha ihb | alt a b iha ihb => rw [erase, groups, iha, ihb]; rfl
  | plus _ a ih | group _ a ih => exact ih

/-! ## Matches without groups -/

variable {text : List Char} {i j : Nat} {m : Marks}

theorem Matches.erased (h : Matches text a i j m) : Matches text a.erase i j [] := by
  induction h with
  | empty => exact .empty
  | char hc hm => exact .char hc hm
  | look hl => exact .look hl
  | seq _ _ iha ihb => exact .seq iha ihb
  | altFirst _ ih => exact .altFirst ih
  | altSecond _ ih => exact .altSecond ih
  | once _ ih => exact .once ih
  | more _ _ iha ihb => exact .more iha ihb
  | group _ ih => exact ih

theorem exists_matches_of_erased (h : Matches text a.erase i j m) :
    ∃ n, Matches text a i j n := by
  induction a generalizing i j m with
  | empty | char | look => exact ⟨m, h⟩
  | seq a b iha ihb =>
    obtain ⟨k, n, n', ha, hb, rfl⟩ := Matches.seq_iff.mp h
    obtain ⟨p, hp⟩ := iha ha
    obtain ⟨q, hq⟩ := ihb hb
    exact ⟨_, .seq hp hq⟩
  | alt a b iha ihb =>
    rcases Matches.alt_iff.mp h with h | h
    · obtain ⟨p, hp⟩ := iha h
      exact ⟨p, .altFirst hp⟩
    · obtain ⟨p, hp⟩ := ihb h
      exact ⟨p, .altSecond hp⟩
  | plus greedy a ih =>
    -- round by round
    generalize hr : (Regex.plus greedy a).erase = r at h
    induction h with
    | once h _ =>
      cases hr
      obtain ⟨p, hp⟩ := ih h
      exact ⟨p, .once hp⟩
    | more h _ _ ihm =>
      cases hr
      obtain ⟨p, hp⟩ := ih h
      obtain ⟨q, hq⟩ := ihm rfl
      exact ⟨_, .more hp hq⟩
    | _ => cases hr
  | group x a ih =>
    obtain ⟨p, hp⟩ := ih h
    exact ⟨_, .group hp⟩

/-- Expressions that differ in their groups match the same stretches of text. -/
theorem exists_matches_congr (h : a.erase = b.erase) (ha : Matches text a i j m) :
    ∃ n, Matches text b i j n :=
  exists_matches_of_erased (h ▸ ha.erased)

/-! ## Whole texts -/

/-- The expression between the ends of the text. -/
def anchored (a : Regex) : Regex := seqs [.look .textStart, a, .look .textEnd]

/-- Whether the expression matches a text from its beginning to its end. -/
def matchesWhole (a : Regex) (text : List Char) : Bool := (a.anchored.captures text).isSome

theorem matchesWhole_iff : a.matchesWhole text = true ↔ ∃ m, Matches text a 0 text.length m := by
  rw [matchesWhole, captures_isSome_iff]
  constructor
  · rintro ⟨i, j, m, hi, h⟩
    obtain ⟨_, _, _, hstart, ⟨k, n, _, ha, ⟨_, _, _, hend, ⟨rfl, rfl⟩, rfl⟩, rfl⟩, rfl⟩ :=
      MatchesAll.seqs_iff.mp h
    obtain ⟨rfl, rfl, rfl⟩ := (Matches.textStart_iff hi).mp hstart
    obtain ⟨rfl, -, -⟩ := (Matches.textEnd_iff (ha.le_length (Nat.zero_le _))).mp hend
    exact ⟨n, ha⟩
  · rintro ⟨m, h⟩
    have hstart := (Matches.textStart_iff (Nat.zero_le text.length)).mpr ⟨rfl, rfl, rfl⟩
    have hend := (Matches.textEnd_iff (Nat.le_refl text.length)).mpr ⟨rfl, rfl, rfl⟩
    have hall : MatchesAll text [.look .textStart, a, .look .textEnd] 0 text.length _ :=
      .cons hstart (.cons h (.cons hend ⟨rfl, rfl⟩))
    exact ⟨0, text.length, _, Nat.zero_le _, MatchesAll.seqs_iff.mpr hall⟩

theorem matchesWhole_congr (h : a.erase = b.erase) (text : List Char) :
    a.matchesWhole text = b.matchesWhole text := by
  rw [Bool.eq_iff_iff, matchesWhole_iff, matchesWhole_iff]
  constructor
  · rintro ⟨m, hm⟩
    exact exists_matches_congr h hm
  · rintro ⟨m, hm⟩
    exact exists_matches_congr h.symm hm

end PathRoute.Regex
