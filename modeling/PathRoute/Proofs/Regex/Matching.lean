import PathRoute.Regex.Search

/-!
# What expressions match

The meaning of an expression apart from any search for it: a relation between an expression, the
two ends of a stretch of text, and what its groups note on the way. A text may be matched in many
ways; which of them a search prefers is not told here.
-/

namespace PathRoute.Regex

/-- The character before a position. -/
def charBefore (text : List Char) (i : Nat) : Option Char := if i = 0 then none else text[i - 1]?

/-- The expression matches the text from one position to another, with these notes, the latest
first. -/
inductive Matches (text : List Char) : Regex → Nat → Nat → Marks → Prop where
  | empty {i : Nat} : Matches text .empty i i []
  | char {a : CharClass} {i : Nat} {c : Char} :
      text[i]? = some c → a.contains c = true → Matches text (.char a) i (i + 1) []
  | look {l : Look} {i : Nat} :
      l.holds (charBefore text i) text[i]? = true → Matches text (.look l) i i []
  | seq {a b : Regex} {i j k : Nat} {m n : Marks} :
      Matches text a i j m → Matches text b j k n → Matches text (.seq a b) i k (n ++ m)
  | altFirst {a b : Regex} {i j : Nat} {m : Marks} :
      Matches text a i j m → Matches text (.alt a b) i j m
  | altSecond {a b : Regex} {i j : Nat} {m : Marks} :
      Matches text b i j m → Matches text (.alt a b) i j m
  | once {g : Bool} {a : Regex} {i j : Nat} {m : Marks} :
      Matches text a i j m → Matches text (.plus g a) i j m
  | more {g : Bool} {a : Regex} {i j k : Nat} {m n : Marks} :
      Matches text a i j m → Matches text (.plus g a) j k n → Matches text (.plus g a) i k (n ++ m)
  | group {x : Nat} {a : Regex} {i j : Nat} {m : Marks} :
      Matches text a i j m → Matches text (.group x a) i j ((2 * x + 1, j) :: (m ++ [(2 * x, i)]))

/-- The expressions match one after the other. -/
def MatchesAll (text : List Char) : List Regex → Nat → Nat → Marks → Prop
  | [], i, j, m => i = j ∧ m = []
  | a :: as, i, k, m =>
    ∃ j n n', Matches text a i j n ∧ MatchesAll text as j k n' ∧ m = n' ++ n

variable {text : List Char} {a b : Regex} {i j k : Nat} {m : Marks}

namespace Matches

theorem le (h : Matches text a i j m) : i ≤ j := by
  induction h <;> omega

/-- A match that begins within the text ends within it. -/
theorem le_length (h : Matches text a i j m) (hi : i ≤ text.length) : j ≤ text.length := by
  induction h with
  | char hc _ =>
    have := (List.getElem?_eq_some_iff.mp hc).1
    omega
  | seq _ _ ih ih' => exact ih' (ih hi)
  | more _ _ ih ih' => exact ih' (ih hi)
  | empty | look => exact hi
  | altFirst _ ih | altSecond _ ih | once _ ih | group _ ih => exact ih hi

theorem empty_iff : Matches text .empty i j m ↔ i = j ∧ m = [] := by
  constructor
  · rintro ⟨⟩
    exact ⟨rfl, rfl⟩
  · rintro ⟨rfl, rfl⟩
    exact .empty

theorem char_iff {cls : CharClass} :
    Matches text (.char cls) i j m ↔
      j = i + 1 ∧ m = [] ∧ ∃ c, text[i]? = some c ∧ cls.contains c = true := by
  constructor
  · intro h
    cases h with
    | char hc hm => exact ⟨rfl, rfl, _, hc, hm⟩
  · rintro ⟨rfl, rfl, c, hc, hm⟩
    exact .char hc hm

theorem look_iff {l : Look} :
    Matches text (.look l) i j m ↔
      i = j ∧ m = [] ∧ l.holds (charBefore text i) text[i]? = true := by
  constructor
  · intro h
    cases h with
    | look hl => exact ⟨rfl, rfl, hl⟩
  · rintro ⟨rfl, rfl, hl⟩
    exact .look hl

theorem seq_iff :
    Matches text (.seq a b) i k m ↔
      ∃ j n n', Matches text a i j n ∧ Matches text b j k n' ∧ m = n' ++ n := by
  constructor
  · intro h
    cases h with
    | seq ha hb => exact ⟨_, _, _, ha, hb, rfl⟩
  · rintro ⟨j, n, n', ha, hb, rfl⟩
    exact .seq ha hb

theorem alt_iff :
    Matches text (.alt a b) i j m ↔ Matches text a i j m ∨ Matches text b i j m := by
  constructor
  · intro h
    cases h with
    | altFirst h => exact .inl h
    | altSecond h => exact .inr h
  · rintro (h | h)
    · exact .altFirst h
    · exact .altSecond h

theorem group_iff {x : Nat} :
    Matches text (.group x a) i j m ↔
      ∃ n, Matches text a i j n ∧ m = (2 * x + 1, j) :: (n ++ [(2 * x, i)]) := by
  constructor
  · intro h
    cases h with
    | group h => exact ⟨_, h, rfl⟩
  · rintro ⟨n, h, rfl⟩
    exact .group h

theorem opt_iff {greedy : Bool} :
    Matches text (opt greedy a) i j m ↔ Matches text a i j m ∨ (i = j ∧ m = []) := by
  cases greedy
  · rw [opt, if_neg (by simp), alt_iff, empty_iff, or_comm]
  · rw [opt, if_pos rfl, alt_iff, empty_iff]

theorem textStart_iff (hi : i ≤ text.length) :
    Matches text (.look .textStart) i j m ↔ i = 0 ∧ j = 0 ∧ m = [] := by
  rw [look_iff]
  constructor
  · rintro ⟨rfl, rfl, h⟩
    by_cases h0 : i = 0
    · exact ⟨h0, h0, rfl⟩
    · have hlt : i - 1 < text.length := by omega
      simp [Look.holds, charBefore, h0] at h
      omega
  · rintro ⟨rfl, rfl, rfl⟩
    exact ⟨rfl, rfl, rfl⟩

theorem textEnd_iff (hi : i ≤ text.length) :
    Matches text (.look .textEnd) i j m ↔ i = text.length ∧ j = text.length ∧ m = [] := by
  rw [look_iff]
  constructor
  · rintro ⟨rfl, rfl, h⟩
    have : text.length ≤ i := by simpa [Look.holds] using h
    exact ⟨by omega, by omega, rfl⟩
  · rintro ⟨rfl, rfl, rfl⟩
    exact ⟨rfl, rfl, by simp [Look.holds]⟩

/-- A loop over characters of a class takes at least one of them, and nothing else. -/
theorem plus_char_iff {greedy : Bool} {cls : CharClass} :
    Matches text (.plus greedy (.char cls)) i j m ↔
      i < j ∧ m = [] ∧ ∀ k, i ≤ k → k < j → ∃ c, text[k]? = some c ∧ cls.contains c = true := by
  constructor
  · intro h
    generalize hr : Regex.plus greedy (.char cls) = r at h
    induction h with
    | once h =>
      cases hr
      obtain ⟨rfl, rfl, hc⟩ := char_iff.mp h
      refine ⟨by omega, rfl, fun k hk hk' => ?_⟩
      obtain rfl : k = _ := Nat.le_antisymm (by omega) hk
      exact hc
    | more h _ _ ih =>
      cases hr
      obtain ⟨rfl, rfl, hc⟩ := char_iff.mp h
      obtain ⟨hlt, rfl, hall⟩ := ih rfl
      refine ⟨by omega, rfl, fun k hk hk' => ?_⟩
      rcases Nat.eq_or_lt_of_le hk with rfl | hk
      · exact hc
      · exact hall k hk hk'
    | _ => cases hr
  · rintro ⟨hlt, rfl, hall⟩
    -- on the number of characters after the first
    obtain ⟨n, rfl⟩ : ∃ n, j = i + 1 + n := ⟨j - (i + 1), by omega⟩
    induction n generalizing i with
    | zero =>
      obtain ⟨c, hc, hm⟩ := hall i (Nat.le_refl i) hlt
      exact .once (.char hc hm)
    | succ n ih =>
      obtain ⟨c, hc, hm⟩ := hall i (Nat.le_refl i) hlt
      have hrest : Matches text (.plus greedy (.char cls)) (i + 1) (i + 1 + 1 + n) [] :=
        ih (by omega) fun k hk hk' => hall k (by omega) (by omega)
      have := Matches.more (Matches.char hc hm) hrest
      rwa [List.append_nil, show i + 1 + 1 + n = i + 1 + (n + 1) by omega] at this

end Matches

namespace MatchesAll

theorem cons {as : List Regex} {n n' : Marks} (ha : Matches text a i j n)
    (has : MatchesAll text as j k n') : MatchesAll text (a :: as) i k (n' ++ n) :=
  ⟨j, n, n', ha, has, rfl⟩

theorem append {as bs : List Regex} {n n' : Marks} (has : MatchesAll text as i j n)
    (hbs : MatchesAll text bs j k n') : MatchesAll text (as ++ bs) i k (n' ++ n) := by
  induction as generalizing i n with
  | nil =>
    obtain ⟨rfl, rfl⟩ := has
    rwa [List.append_nil]
  | cons a as ih =>
    obtain ⟨_, p, p', ha, has, rfl⟩ := has
    rw [← List.append_assoc]
    exact cons ha (ih has)

theorem le {as : List Regex} (h : MatchesAll text as i j m) : i ≤ j := by
  induction as generalizing i m with
  | nil => exact Nat.le_of_eq h.1
  | cons a as ih =>
    obtain ⟨k, n, n', ha, has, rfl⟩ := h
    exact Nat.le_trans ha.le (ih has)

theorem le_length {as : List Regex} (h : MatchesAll text as i j m) (hi : i ≤ text.length) :
    j ≤ text.length := by
  induction as generalizing i m with
  | nil => exact h.1 ▸ hi
  | cons a as ih =>
    obtain ⟨k, n, n', ha, has, rfl⟩ := h
    exact ih has (ha.le_length hi)

theorem append_iff {as bs : List Regex} :
    MatchesAll text (as ++ bs) i k m ↔
      ∃ j n n', MatchesAll text as i j n ∧ MatchesAll text bs j k n' ∧ m = n' ++ n := by
  constructor
  · intro h
    induction as generalizing i m with
    | nil => exact ⟨i, [], m, ⟨rfl, rfl⟩, h, (List.append_nil m).symm⟩
    | cons a as ih =>
      obtain ⟨_, n, n', ha, h, rfl⟩ := h
      obtain ⟨j, p, p', has, hbs, rfl⟩ := ih h
      exact ⟨j, p ++ n, p', cons ha has, hbs, List.append_assoc ..⟩
  · rintro ⟨j, n, n', has, hbs, rfl⟩
    exact has.append hbs

theorem seqs_iff {as : List Regex} :
    Matches text (seqs as) i j m ↔ MatchesAll text as i j m := by
  induction as generalizing i m with
  | nil => exact Matches.empty_iff
  | cons a as ih =>
    cases as with
    | nil =>
      simp only [seqs, MatchesAll]
      constructor
      · intro h
        exact ⟨j, m, [], h, ⟨rfl, rfl⟩, rfl⟩
      · rintro ⟨_, _, _, h, ⟨rfl, rfl⟩, rfl⟩
        exact h
    | cons b as =>
      rw [seqs, Matches.seq_iff]
      · exact exists_congr fun j => exists_congr fun n => exists_congr fun n' =>
          and_congr_right fun _ => and_congr_left fun _ => ih
      · simp

end MatchesAll

end PathRoute.Regex
