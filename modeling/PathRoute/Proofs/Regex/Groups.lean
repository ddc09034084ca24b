import PathRoute.Proofs.Pattern.Captures
import PathRoute.Proofs.Regex.Erasure

/-!
# What groups capture

The place that was noted for a group is one that the content of the group matched, and where that
content asks for no condition on its place, it matches the captured text on its own.
-/

namespace PathRoute.Regex

variable {text text' : List Char} {a b c : Regex} {as : List Regex} {greedy : Bool} {g i j : Nat}
  {m : Marks}

/-! ## Contents of groups -/

/-- What stands in the groups with a number. -/
def contents (g : Nat) : Regex → List Regex
  | .empty | .char _ | .look _ => []
  | .seq a b | .alt a b => contents g a ++ contents g b
  | .plus _ a => contents g a
  | .group x a => if x = g then a :: contents g a else contents g a

theorem contents_eq_nil (h : g ∉ a.groups) : a.contents g = [] := by
  induction a with
  | empty | char | look => rfl
  | seq a b iha ihb | alt a b iha ihb =>
    rw [groups, List.mem_append, not_or] at h
    rw [contents, iha h.1, ihb h.2]
    rfl
  | plus _ a ih => exact ih h
  | group x a ih =>
    rw [groups, List.mem_cons, not_or] at h
    rw [contents, if_neg (Ne.symm h.1)]
    exact ih h.2

theorem mem_groups_of_mem_contents (h : c ∈ a.contents g) : g ∈ a.groups := by
  refine Decidable.byContradiction fun hg => ?_
  rw [contents_eq_nil hg] at h
  cases h

theorem contents_opt : (opt greedy a).contents g = a.contents g := by
  cases greedy <;> simp [opt, contents]

theorem mem_contents_seqs : c ∈ (seqs as).contents g ↔ ∃ a ∈ as, c ∈ a.contents g := by
  induction as with
  | nil => simp [seqs, contents]
  | cons a as ih =>
    cases as with
    | nil => simp [seqs]
    | cons b as =>
      change c ∈ a.contents g ++ (seqs (b :: as)).contents g ↔ _
      rw [List.mem_append, ih]
      simp

/-- The content of a group without others in it. -/
theorem contents_group (h : g ∉ a.groups) : (Regex.group g a).contents g = [a] := by
  rw [contents, if_pos rfl, contents_eq_nil h]

/-! ## Notes -/

namespace Marks

/-- Nothing has been noted for the group. -/
def Silent (m : Marks) (g : Nat) : Prop := m.lookup (2 * g) = none ∧ m.lookup (2 * g + 1) = none

/-- A place has been noted for the group. -/
def Notes (m : Marks) (g i j : Nat) : Prop :=
  m.lookup (2 * g) = some i ∧ m.lookup (2 * g + 1) = some j

variable {n : Marks} {x : Nat}

theorem Notes.append (h : n.Notes g i j) (m : Marks) : Notes (n ++ m) g i j :=
  ⟨by rw [List.lookup_append, h.1]; rfl, by rw [List.lookup_append, h.2]; rfl⟩

theorem Silent.lookup_append (h : n.Silent g) (m : Marks) :
    (n ++ m).lookup (2 * g) = m.lookup (2 * g) ∧
      (n ++ m).lookup (2 * g + 1) = m.lookup (2 * g + 1) :=
  ⟨by rw [List.lookup_append, h.1]; rfl, by rw [List.lookup_append, h.2]; rfl⟩

theorem lookup_ofGroup (hx : x ≠ g) (i j : Nat) (m : Marks) :
    (ofGroup x i j m).lookup (2 * g) = m.lookup (2 * g) ∧
      (ofGroup x i j m).lookup (2 * g + 1) = m.lookup (2 * g + 1) := by
  have h₁ : (2 * g == 2 * x + 1) = false := by grind
  have h₂ : (2 * g == 2 * x) = false := by grind
  have h₃ : (2 * g + 1 == 2 * x + 1) = false := by grind
  have h₄ : (2 * g + 1 == 2 * x) = false := by grind
  simp only [ofGroup, List.lookup_append, List.lookup_cons, List.lookup_nil, h₁, h₂, h₃, h₄,
    Option.or_none, and_self]

theorem Silent.ofGroup (h : m.Silent g) (i j : Nat) : Notes (ofGroup g i j m) g i j := by
  have hne : (2 * g == 2 * g + 1) = false := by simp
  constructor <;> simp [Marks.ofGroup, List.lookup_append, List.lookup_cons, h.1, hne]

theorem notes_of_place? (h : m.place? g = some (i, j)) : m.Notes g i j := by
  unfold place? at h
  split at h
  · cases h
    exact ⟨by assumption, by assumption⟩
  · cases h

end Marks

/-- What has been noted for the group is a place that one of the expressions matched. -/
def Noted (text : List Char) (g : Nat) (cs : List Regex) (m : Marks) : Prop :=
  m.Silent g ∨ ∃ i j, m.Notes g i j ∧ ∃ c ∈ cs, ∃ n, Matches text c i j n

namespace Noted

variable {cs cs' : List Regex} {n : Marks}

theorem mono (h : Noted text g cs m) (hsub : ∀ c ∈ cs, c ∈ cs') : Noted text g cs' m := by
  rcases h with h | ⟨i, j, h, c, hc, hm⟩
  · exact .inl h
  · exact .inr ⟨i, j, h, c, hsub c hc, hm⟩

theorem append (hn : Noted text g cs n) (hm : Noted text g cs m) : Noted text g cs (n ++ m) := by
  rcases hn with hn | ⟨i, j, hn, hc⟩
  · obtain ⟨hfirst, hlast⟩ := hn.lookup_append m
    rcases hm with hm | ⟨i, j, hm, hc⟩
    · exact .inl ⟨hfirst.trans hm.1, hlast.trans hm.2⟩
    · exact .inr ⟨i, j, ⟨hfirst.trans hm.1, hlast.trans hm.2⟩, hc⟩
  · exact .inr ⟨i, j, hn.append m, hc⟩

theorem silent (h : Noted text g [] m) : m.Silent g := by
  rcases h with h | ⟨_, _, _, c, hc, _⟩
  · exact h
  · cases hc

end Noted

/-- Where groups with a number do not stand in each other, the place that is noted last is one that
a content of them matched. -/
theorem Matches.noted (hnest : ∀ c ∈ a.contents g, g ∉ c.groups) (h : Matches text a i j m) :
    Noted text g (a.contents g) m := by
  induction h with
  | empty | char | look => exact .inl ⟨rfl, rfl⟩
  | seq _ _ iha ihb =>
    have ha := iha fun c hc => hnest c (List.mem_append_left _ hc)
    have hb := ihb fun c hc => hnest c (List.mem_append_right _ hc)
    exact (hb.mono fun c hc => List.mem_append_right _ hc).append
      (ha.mono fun c hc => List.mem_append_left _ hc)
  | altFirst _ ih =>
    exact (ih fun c hc => hnest c (List.mem_append_left _ hc)).mono fun c hc =>
      List.mem_append_left _ hc
  | altSecond _ ih =>
    exact (ih fun c hc => hnest c (List.mem_append_right _ hc)).mono fun c hc =>
      List.mem_append_right _ hc
  | once _ ih => exact ih hnest
  | more _ _ iha ihb => exact (ihb hnest).append (iha hnest)
  | @group x a i j m h ih =>
    by_cases hx : x = g
    · subst hx
      rw [contents, if_pos rfl] at hnest ⊢
      have hnil := contents_eq_nil (hnest a List.mem_cons_self)
      rw [hnil] at ih
      have hsilent := (ih fun c hc => by cases hc).silent
      exact .inr ⟨i, j, hsilent.ofGroup i j, a, List.mem_cons_self, m, h⟩
    · rw [contents, if_neg hx] at hnest ⊢
      obtain ⟨hfirst, hlast⟩ := Marks.lookup_ofGroup hx i j m
      rcases ih hnest with ih | ⟨p, q, ih, hc⟩
      · exact .inl ⟨hfirst.trans ih.1, hlast.trans ih.2⟩
      · exact .inr ⟨p, q, ⟨hfirst.trans ih.1, hlast.trans ih.2⟩, hc⟩

theorem exists_matches_of_place? (hnest : ∀ c ∈ a.contents g, g ∉ c.groups) {p q : Nat}
    (h : Matches text a i j m) (hplace : m.place? g = some (p, q)) :
    ∃ c ∈ a.contents g, ∃ n, Matches text c p q n := by
  have hnotes := Marks.notes_of_place? hplace
  rcases h.noted hnest with hsilent | ⟨p', q', hnotes', hc⟩
  · cases hnotes.1.symm.trans hsilent.1
  · obtain rfl := Option.some.inj (hnotes.1.symm.trans hnotes'.1)
    obtain rfl := Option.some.inj (hnotes.2.symm.trans hnotes'.2)
    exact hc

/-! ## Stretches on their own -/

/-- Whether the expression asks for no condition on a place. -/
def lookFree : Regex → Bool
  | .empty | .char _ => true
  | .look _ => false
  | .seq a b | .alt a b => a.lookFree && b.lookFree
  | .plus _ a | .group _ a => a.lookFree

theorem lookFree_erase : a.erase.lookFree = a.lookFree := by
  induction a with
  | empty | char | look => rfl
  | seq a b iha ihb | alt a b iha ihb => rw [erase, lookFree, lookFree, iha, ihb]
  | plus _ a ih | group _ a ih => exact ih

/-- Without conditions a match depends on the matched text alone. -/
theorem Matches.transfer (ha : a.lookFree = true) (h : Matches text a i j m) {d : Nat}
    (hsame : ∀ k < j - i, text'[d + k]? = text[i + k]?) :
    ∃ n, Matches text' a d (d + (j - i)) n := by
  induction h generalizing d with
  | empty => exact ⟨[], by simpa using Matches.empty⟩
  | @char cls i c hc hm =>
    have := hsame 0 (by omega)
    refine ⟨[], ?_⟩
    rw [Nat.add_sub_cancel_left]
    exact .char (this.trans hc) hm
  | look => cases ha
  | @seq a b i j k m n hma hmb iha ihb =>
    rw [lookFree, Bool.and_eq_true] at ha
    have hij := hma.le
    have hjk := hmb.le
    obtain ⟨p, hp⟩ := iha ha.1 fun k hk => hsame k (by omega)
    obtain ⟨q, hq⟩ := ihb ha.2 fun k hk => by
      have := hsame (j - i + k) (by omega)
      rwa [← Nat.add_assoc, ← Nat.add_assoc, Nat.add_sub_cancel' hij] at this
    rw [Nat.add_assoc, Nat.add_comm (j - i), Nat.sub_add_sub_cancel hjk hij] at hq
    exact ⟨_, .seq hp hq⟩
  | altFirst _ ih =>
    rw [lookFree, Bool.and_eq_true] at ha
    obtain ⟨p, hp⟩ := ih ha.1 hsame
    exact ⟨p, .altFirst hp⟩
  | altSecond _ ih =>
    rw [lookFree, Bool.and_eq_true] at ha
    obtain ⟨p, hp⟩ := ih ha.2 hsame
    exact ⟨p, .altSecond hp⟩
  | once _ ih =>
    obtain ⟨p, hp⟩ := ih ha hsame
    exact ⟨p, .once hp⟩
  | @more _ a i j k m n hma hmb iha ihb =>
    have hij := hma.le
    have hjk := hmb.le
    obtain ⟨p, hp⟩ := iha ha fun k hk => hsame k (by omega)
    obtain ⟨q, hq⟩ := ihb ha fun k hk => by
      have := hsame (j - i + k) (by omega)
      rwa [← Nat.add_assoc, ← Nat.add_assoc, Nat.add_sub_cancel' hij] at this
    rw [Nat.add_assoc, Nat.add_comm (j - i), Nat.sub_add_sub_cancel hjk hij] at hq
    exact ⟨_, .more hp hq⟩
  | group _ ih =>
    obtain ⟨p, hp⟩ := ih ha hsame
    exact ⟨_, .group hp⟩

/-- A match does not go on behind the end of the text. -/
theorem Matches.le_max (h : Matches text a i j m) : j ≤ max i text.length := by
  induction h with
  | char hc _ =>
    have := (List.getElem?_eq_some_iff.mp hc).1
    omega
  | _ => omega

theorem matchesWhole_textAt (ha : a.lookFree = true) (h : Matches text a i j m) :
    a.matchesWhole (textAt text (i, j)) = true := by
  have hmax := h.le_max
  have hle := h.le
  have hsame : ∀ k < j - i, (textAt text (i, j))[0 + k]? = text[i + k]? := by
    intro k hk
    rw [textAt_eq_take_drop, Nat.zero_add, List.getElem?_take, if_pos hk, List.getElem?_drop]
  obtain ⟨n, hn⟩ := h.transfer ha hsame
  rw [matchesWhole_iff]
  have hlen : (textAt text (i, j)).length = 0 + (j - i) := by
    rw [textAt_eq_take_drop]
    simp
    omega
  exact ⟨n, hlen ▸ hn⟩

end PathRoute.Regex
