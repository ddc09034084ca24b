import PathRoute.Proofs.Template.Substitution

/-!
# Brackets of a text

Which opening brackets of a text are closed in it, told by counting: a bracket stays open if in no
front of what follows it the closing brackets outnumber the opening ones.
-/

namespace PathRoute.Template

/-- An opening bracket in front of the text is not closed in it. -/
def StaysOpen (cs : List Char) : Prop := ∀ front, front <+: cs → front.count ']' ≤ front.count '['

/-- Every opening bracket of the text is closed in it. -/
def AllClosed (cs : List Char) : Prop :=
  ∀ before after, cs = before ++ '[' :: after → ¬StaysOpen after

/-- The brackets of the text belong to each other. -/
structure Balanced (cs : List Char) : Prop where
  count_eq : cs.count '[' = cs.count ']'
  staysOpen : StaysOpen cs

variable {xs ys : List Char}

theorem prefix_append_cases {front : List Char} (h : front <+: xs ++ ys) :
    front <+: xs ∨ ∃ zs, front = xs ++ zs ∧ zs <+: ys := by
  rcases List.prefix_or_prefix_of_prefix h (List.prefix_append xs ys) with hxs | ⟨zs, rfl⟩
  · exact .inl hxs
  · exact .inr ⟨zs, rfl, (List.prefix_append_right_inj xs).mp h⟩

/-- Among the opening brackets that are not closed there is a last one. -/
theorem exists_last_of_not_allClosed {cs : List Char} (h : ¬AllClosed cs) :
    ∃ before after, cs = before ++ '[' :: after ∧ StaysOpen after ∧ AllClosed after := by
  induction cs with
  | nil => exact absurd (fun before _ heq => by cases before <;> cases heq) h
  | cons c cs ih =>
    by_cases hcs : AllClosed cs
    · simp only [AllClosed, not_forall, not_not] at h
      obtain ⟨before, after, heq, hopen⟩ := h
      cases before with
      | nil =>
        obtain ⟨rfl, rfl⟩ := List.cons.inj heq
        exact ⟨[], cs, rfl, hopen, hcs⟩
      | cons d before => exact absurd hopen (hcs before after (List.cons.inj heq).2)
    · obtain ⟨before, after, rfl, hlast⟩ := ih hcs
      exact ⟨c :: before, after, rfl, hlast⟩

namespace Balanced

theorem of_not_mem (hopen : '[' ∉ xs) (hclose : ']' ∉ xs) : Balanced xs where
  count_eq := by rw [List.count_eq_zero_of_not_mem hopen, List.count_eq_zero_of_not_mem hclose]
  staysOpen := by
    intro front hfront
    rw [List.count_eq_zero_of_not_mem fun h => hclose (hfront.subset h)]
    exact Nat.zero_le _

theorem append (hx : Balanced xs) (hy : Balanced ys) : Balanced (xs ++ ys) where
  count_eq := by rw [List.count_append, List.count_append, hx.count_eq, hy.count_eq]
  staysOpen := by
    intro front hfront
    rcases prefix_append_cases hfront with hfront | ⟨zs, rfl, hzs⟩
    · exact hx.staysOpen front hfront
    · have hcount := hy.staysOpen zs hzs
      simp only [List.count_append, hx.count_eq]
      omega

theorem group (h : Balanced xs) : Balanced ('[' :: (xs ++ [']'])) where
  count_eq := by simp [h.count_eq]
  staysOpen := by
    intro front hfront
    rcases List.prefix_cons_iff.mp hfront with rfl | ⟨rest, rfl, hrest⟩
    · simp
    · rcases prefix_append_cases hrest with hrest | ⟨zs, rfl, hzs⟩
      · have hcount := h.staysOpen rest hrest
        simp
        omega
      · have hcount := h.count_eq
        have hzs := hzs.sublist.count_le ']'
        simp at hzs ⊢
        omega

/-- A balanced text within brackets can be taken away with them. -/
theorem of_group {before span after : List Char} (hspan : Balanced span)
    (h : Balanced (before ++ '[' :: (span ++ ']' :: after))) : Balanced (before ++ after) where
  count_eq := by
    have hcount := h.count_eq
    have hspan := hspan.count_eq
    simp at hcount ⊢
    omega
  staysOpen := by
    intro front hfront
    rcases prefix_append_cases hfront with hfront | ⟨zs, rfl, hzs⟩
    · exact h.staysOpen front (hfront.trans (List.prefix_append _ _))
    · have hlong : before ++ '[' :: (span ++ ']' :: zs) <+:
          before ++ '[' :: (span ++ ']' :: after) := by
        simpa using hzs
      have hcount := h.staysOpen _ hlong
      have hspan := hspan.count_eq
      simp at hcount ⊢
      omega

/-- What follows an opening bracket of a balanced text closes it. -/
theorem allClosed (h : Balanced xs) : AllClosed xs := by
  rintro before after rfl hafter
  have hcount := h.count_eq
  have hbefore := h.staysOpen before (List.prefix_append _ _)
  have hafter := hafter after (List.prefix_refl _)
  simp at hcount
  omega

end Balanced

/-- The brackets that are open after a text, the last one first. Balanced texts stand before,
between and behind them. -/
inductive Openings : List Char → List Nat → Prop where
  | nil {cs : List Char} : Balanced cs → Openings cs []
  | cons {before inner : List Char} {os : List Nat} : Openings before os → Balanced inner →
      Openings (before ++ '[' :: inner) ((String.ofList before).utf8ByteSize :: os)

namespace Openings

variable {os : List Nat} {o : Nat}

theorem append (h : Openings xs os) (hy : Balanced ys) : Openings (xs ++ ys) os := by
  cases h with
  | nil h => exact .nil (h.append hy)
  | cons h hz =>
    rw [List.append_assoc, List.cons_append]
    exact .cons h (hz.append hy)

theorem opens (h : Openings xs os) :
    Openings (xs ++ ['[']) ((String.ofList xs).utf8ByteSize :: os) :=
  .cons h (.of_not_mem (by simp) (by simp))

theorem closes (h : Openings xs (o :: os)) : Openings (xs ++ [']']) os := by
  cases h with
  | cons h hy =>
    rw [List.append_assoc, List.cons_append]
    exact h.append hy.group

theorem allClosed_iff (h : Openings xs os) : AllClosed xs ↔ os = [] := by
  cases h with
  | nil h => exact iff_of_true h.allClosed rfl
  | cons h hy => exact iff_of_false (fun hall => hall _ _ rfl hy.staysOpen) (List.cons_ne_nil _ _)

/-- The bracket that was opened last stands where it is told, and all behind it are closed. -/
theorem exists_of_cons (h : Openings xs (o :: os)) :
    ∃ before after, xs = before ++ '[' :: after ∧ StaysOpen after ∧ AllClosed after ∧
      o = (String.ofList before).utf8ByteSize := by
  cases h with
  | cons h hy => exact ⟨_, _, rfl, hy.staysOpen, hy.allClosed, rfl⟩

end Openings

/-! ## Brackets of a template -/

theorem balanced_token {name : String} (h : IsName name.toList) : Balanced (token name) :=
  .of_not_mem h.not_mem_token.1 h.not_mem_token.2

theorem balanced_print {t : Template} (h : t.Plain) : Balanced t.print := by
  induction t with
  | nil => exact .of_not_mem List.not_mem_nil List.not_mem_nil
  | literal text rest ih => exact .append (.of_not_mem h.1.2.1 h.1.2.2) (ih h.2)
  | placeholder name rest ih =>
    rw [print_placeholder]
    exact .append (balanced_token h.1) (ih h.2)
  | optional inner rest ihi ihr =>
    have hsplit : (optional inner rest).print = '[' :: (inner.print ++ [']']) ++ rest.print := by
      simp [print]
    rw [hsplit]
    exact .append (ihi h.1).group (ihr h.2)

end PathRoute.Template
