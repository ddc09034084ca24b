import PathRoute.Proofs.Template.Brackets
import PathRoute.Proofs.Template.Marks

/-!
# Stripping the groups of a text

The required placeholders are described by the written template: innermost groups are taken away
until there are no brackets, and the tokens that are left are required. In whatever order this is
done, the text outside all groups is left.
-/

namespace PathRoute.Template

/-- A group with no brackets in it is taken away. -/
inductive Strip : List Char → List Char → Prop where
  | group {before span after : List Char} : '[' ∉ span → ']' ∉ span →
      Strip (before ++ '[' :: (span ++ ']' :: after)) (before ++ after)

/-- No brackets are left of the text. -/
def Stripped (cs ds : List Char) : Prop :=
  Relation.ReflTransGen Strip cs ds ∧ '[' ∉ ds ∧ ']' ∉ ds

variable {t : Template} {cs ds : List Char}

/-! ## The text outside brackets -/

/-- The text outside brackets, some of which may have been opened before. -/
def outsideBrackets (depth : Nat) : List Char → List Char
  | [] => []
  | c :: cs =>
    if c = '[' then outsideBrackets (depth + 1) cs
    else if c = ']' then outsideBrackets (depth - 1) cs
    else (if depth = 0 then [c] else []) ++ outsideBrackets depth cs

theorem outsideBrackets_open (depth : Nat) (cs : List Char) :
    outsideBrackets depth ('[' :: cs) = outsideBrackets (depth + 1) cs := by
  rw [outsideBrackets, if_pos rfl]

theorem outsideBrackets_close (depth : Nat) (cs : List Char) :
    outsideBrackets depth (']' :: cs) = outsideBrackets (depth - 1) cs := by
  rw [outsideBrackets, if_neg (by decide), if_pos rfl]

theorem outsideBrackets_append (hopen : '[' ∉ ds) (hclose : ']' ∉ ds) (depth : Nat)
    (cs : List Char) : outsideBrackets depth (ds ++ cs) =
      (if depth = 0 then ds else []) ++ outsideBrackets depth cs := by
  induction ds with
  | nil => simp
  | cons d ds ih =>
    rw [List.mem_cons, not_or] at hopen hclose
    rw [List.cons_append, outsideBrackets, if_neg (Ne.symm hopen.1), if_neg (Ne.symm hclose.1),
      ih hopen.2 hclose.2]
    split <;> rfl

theorem outsideBrackets_of_not_mem (hopen : '[' ∉ cs) (hclose : ']' ∉ cs) :
    outsideBrackets 0 cs = cs := by
  have happend := outsideBrackets_append hopen hclose 0 []
  rwa [List.append_nil, if_pos rfl, outsideBrackets, List.append_nil] at happend

theorem outsideBrackets_of_strip (h : Strip cs ds) (depth : Nat) :
    outsideBrackets depth cs = outsideBrackets depth ds := by
  cases h with
  | @group before span after hopen hclose =>
    induction before generalizing depth with
    | nil =>
      rw [List.nil_append, outsideBrackets_open, outsideBrackets_append hopen hclose,
        if_neg (Nat.succ_ne_zero _), List.nil_append, outsideBrackets_close, Nat.add_sub_cancel]
      rfl
    | cons c before ih => simp only [List.cons_append, outsideBrackets, ih]

theorem outsideBrackets_of_strips (h : Relation.ReflTransGen Strip cs ds) (depth : Nat) :
    outsideBrackets depth cs = outsideBrackets depth ds := by
  induction h with
  | refl => rfl
  | tail _ hstep ih => rw [ih, outsideBrackets_of_strip hstep]

/-- What a text is stripped to is the text outside its brackets. -/
theorem Stripped.eq_outsideBrackets (h : Stripped cs ds) : ds = outsideBrackets 0 cs := by
  obtain ⟨hrun, hopen, hclose⟩ := h
  rw [outsideBrackets_of_strips hrun, outsideBrackets_of_not_mem hopen hclose]

/-! ## Stripping to the end -/

theorem Strip.length_lt (h : Strip cs ds) : ds.length < cs.length := by
  cases h
  simp only [List.length_append, List.length_cons]
  omega

theorem Strip.balanced (h : Strip cs ds) (hcs : Balanced cs) : Balanced ds := by
  cases h with
  | group hopen hclose => exact .of_group (.of_not_mem hopen hclose) hcs

theorem Balanced.of_strips (h : Balanced cs) (hrun : Relation.ReflTransGen Strip cs ds) :
    Balanced ds := by
  induction hrun with
  | refl => exact h
  | tail _ hstep ih => exact hstep.balanced ih

theorem Collapse.exists_strip (h : Collapse cs ds) : ∃ es, Strip cs es := by
  cases h with
  | drop hopen hclose | keep hopen hclose => exact ⟨_, .group hopen hclose⟩

/-- While there are brackets that belong to each other, some group can be taken away. -/
theorem Balanced.exists_strip (h : Balanced cs) (hcs : ¬('[' ∉ cs ∧ ']' ∉ cs)) :
    ∃ ds, Strip cs ds := by
  have hclose : ']' ∈ cs := by
    by_contra hclose
    refine hcs ⟨?_, hclose⟩
    rw [← List.count_eq_zero, h.count_eq, List.count_eq_zero]
    exact hclose
  obtain ⟨before, after, rfl, hbefore⟩ := List.eq_append_cons_of_mem hclose
  have hopen : '[' ∈ before := by
    have hcount := h.staysOpen (before ++ [']']) ⟨after, by simp⟩
    simp only [List.count_append, List.count_singleton_self] at hcount
    simp at hcount
    exact List.count_pos_iff.mp (by omega)
  obtain ⟨_, hcollapse⟩ := exists_collapse hopen hbefore after
  exact hcollapse.exists_strip

/-- A text whose brackets belong to each other can be stripped. -/
theorem Balanced.exists_stripped (h : Balanced cs) : ∃ ds, Stripped cs ds := by
  induction hn : cs.length using Nat.strongRecOn generalizing cs with
  | ind n ih =>
    by_cases hcs : '[' ∉ cs ∧ ']' ∉ cs
    · exact ⟨cs, .refl, hcs⟩
    · obtain ⟨ds, hstep⟩ := h.exists_strip hcs
      obtain ⟨es, hrun, hes⟩ := ih ds.length (hn ▸ hstep.length_lt) (hstep.balanced h) rfl
      exact ⟨es, .head hstep hrun, hes⟩

/-! ## Stripping templates -/

/-- Within brackets nothing of a template is left. -/
theorem outsideBrackets_print_append (h : t.Plain) (depth : Nat) (cs : List Char) :
    outsideBrackets (depth + 1) (t.print ++ cs) = outsideBrackets (depth + 1) cs := by
  induction t generalizing depth cs with
  | nil => rfl
  | literal text rest ih =>
    rw [print, List.append_assoc, outsideBrackets_append h.1.2.1 h.1.2.2,
      if_neg (Nat.succ_ne_zero _), List.nil_append, ih h.2]
  | placeholder name rest ih =>
    obtain ⟨hopen, hclose⟩ := h.1.not_mem_token
    rw [print_placeholder, List.append_assoc, outsideBrackets_append hopen hclose,
      if_neg (Nat.succ_ne_zero _), List.nil_append, ih h.2]
  | optional inner rest ihi ihr =>
    rw [print, List.cons_append, List.append_assoc, List.cons_append, outsideBrackets_open,
      ihi h.1, outsideBrackets_close, Nat.add_sub_cancel, ihr h.2]

/-- The tokens outside all brackets are the required placeholders. -/
theorem names_outsideBrackets (h : t.Plain) (cs : List Char) :
    Token.names (outsideBrackets 0 (t.print ++ cs)) =
      t.required ++ Token.names (outsideBrackets 0 cs) := by
  induction t generalizing cs with
  | nil => rfl
  | literal text rest ih =>
    rw [print, List.append_assoc, outsideBrackets_append h.1.2.1 h.1.2.2, if_pos rfl, Token.names,
      Token.marks_of_isPlain h.1]
    exact ih h.2 cs
  | placeholder name rest ih =>
    have htoken : ∀ ds, token name ++ ds = '<' :: (name.toList ++ '>' :: ds) := by
      simp [token, Token.print]
    obtain ⟨hopen, hclose⟩ := h.1.not_mem_token
    rw [print_placeholder, List.append_assoc, outsideBrackets_append hopen hclose, if_pos rfl,
      Token.names, htoken, Token.marks_placeholder h.1,
      String.ofList_toList, List.filterMap_cons]
    exact congrArg _ (ih h.2 cs)
  | optional inner rest ihi ihr =>
    rw [print, List.cons_append, List.append_assoc, List.cons_append, outsideBrackets_open,
      outsideBrackets_print_append h.1, outsideBrackets_close, Nat.add_sub_cancel, ihr h.2]
    rfl

/-- However the text of a template is stripped, its required placeholders are left. -/
theorem names_of_stripped (h : t.Plain) (hds : Stripped t.print ds) :
    Token.names ds = t.required := by
  have hnames := names_outsideBrackets h []
  have hnil : Token.names (outsideBrackets 0 []) = [] := rfl
  rwa [List.append_nil, hnil, List.append_nil, ← hds.eq_outsideBrackets] at hnames

end PathRoute.Template
