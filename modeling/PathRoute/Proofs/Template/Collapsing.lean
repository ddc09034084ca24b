import Mathlib.Logic.Relation
import PathRoute.Proofs.Template.Substitution

/-!
# Collapsing the groups of a text

A group in the text of a template is taken away if it still has a token, and else loses its
brackets, innermost groups first. In whatever order this is done, the text that is left is the
residue of the template.
-/

namespace PathRoute.Template

/-- Whether a text has the token of a placeholder. -/
def hasToken : List Char → Bool
  | [] => false
  | c :: cs => (c == '<' && (Token.nameAhead? cs).isSome) || hasToken cs

/-- A group with no brackets in it is taken away if it has a token, and else only its brackets. -/
inductive Collapse : List Char → List Char → Prop where
  | drop {before span after : List Char} : '[' ∉ span → ']' ∉ span → hasToken span = true →
      Collapse (before ++ '[' :: (span ++ ']' :: after)) (before ++ after)
  | keep {before span after : List Char} : '[' ∉ span → ']' ∉ span → hasToken span = false →
      Collapse (before ++ '[' :: (span ++ ']' :: after)) (before ++ (span ++ after))

/-- No group can be collapsed any more. -/
def Settled (cs : List Char) : Prop := ∀ ds, ¬Collapse cs ds

/-- The text of a template without those groups that have a placeholder at their own level. -/
def residue : Template → List Char
  | .nil => []
  | .literal text rest => text.toList ++ rest.residue
  | .placeholder name rest => token name ++ rest.residue
  | .optional inner rest => (if inner.required = [] then inner.residue else []) ++ rest.residue

variable {t : Template} {cs ds span : List Char} {name : String}

/-! ## Tokens -/

theorem hasToken_append (h : '<' ∉ ds) : hasToken (ds ++ cs) = hasToken cs := by
  induction ds with
  | nil => rfl
  | cons d ds ih =>
    rw [List.mem_cons, not_or] at h
    have hd : (d == '<') = false := beq_eq_false_iff_ne.mpr (Ne.symm h.1)
    rw [List.cons_append, hasToken, hd, ih h.2]
    rfl

theorem hasToken_token (h : IsName name.toList) (cs : List Char) :
    hasToken (token name ++ cs) = true := by
  have hahead : Token.nameAhead? (name.toList ++ ['>'] ++ cs) = some (name.toList, cs) :=
    Token.nameAhead?_eq_some_iff.mpr ⟨h, by simp⟩
  have hcons : token name ++ cs = '<' :: (name.toList ++ ['>'] ++ cs) := rfl
  rw [hcons, hasToken, hahead]
  rfl

/-- The tokens of a residue are the placeholders outside every group. -/
theorem hasToken_residue_append (h : t.Plain) (cs : List Char) :
    hasToken (t.residue ++ cs) = (!t.required.isEmpty || hasToken cs) := by
  induction t generalizing cs with
  | nil => rfl
  | literal text rest ih =>
    rw [residue, List.append_assoc, hasToken_append h.1.1, ih h.2, required]
  | placeholder name rest ih =>
    rw [residue, List.append_assoc, hasToken_token h.1]
    rfl
  | optional inner rest ihi ihr =>
    rw [residue, List.append_assoc, required]
    split
    · rename_i hnone
      rw [ihi h.1, ihr h.2, hnone]
      rfl
    · rw [List.nil_append, ihr h.2]

theorem hasToken_residue (h : t.Plain) : hasToken t.residue = !t.required.isEmpty := by
  have happend := hasToken_residue_append h []
  rwa [List.append_nil, hasToken, Bool.or_false] at happend

/-! ## Levels -/

/-- The text at the level that has been reached, and those at the levels around it. -/
structure Levels where
  text : List Char
  outer : List (List Char)

namespace Levels

/-- Leave a level that a bracket closes. -/
def close : Levels → Option Levels
  | ⟨_, []⟩ => none
  | ⟨text, above :: outer⟩ => some ⟨above ++ (if hasToken text then [] else text), outer⟩

/-- Read a text, with each group collapsed as it is closed. -/
def read : List Char → Levels → Option Levels
  | [], s => some s
  | c :: cs, s =>
    if c = '[' then read cs ⟨[], s.text :: s.outer⟩
    else if c = ']' then s.close.bind (read cs)
    else read cs ⟨s.text ++ [c], s.outer⟩

variable {s : Levels}

theorem read_append (cs ds : List Char) (s : Levels) :
    read (cs ++ ds) s = (read cs s).bind (read ds) := by
  induction cs generalizing s with
  | nil => rfl
  | cons c cs ih =>
    rw [List.cons_append, read, read]
    split
    · exact ih _
    · split
      · cases s.close with
        | none => rfl
        | some s' => exact ih s'
      · exact ih _

theorem read_of_not_mem (hopen : '[' ∉ cs) (hclose : ']' ∉ cs) (s : Levels) :
    read cs s = some ⟨s.text ++ cs, s.outer⟩ := by
  induction cs generalizing s with
  | nil => rw [read, List.append_nil]
  | cons c cs ih =>
    rw [List.mem_cons, not_or] at hopen hclose
    rw [read, if_neg (Ne.symm hopen.1), if_neg (Ne.symm hclose.1), ih hopen.2 hclose.2]
    simp

theorem read_open (cs : List Char) (s : Levels) :
    read ('[' :: cs) s = read cs ⟨[], s.text :: s.outer⟩ := by
  rw [read, if_pos rfl]

theorem read_close (cs text above : List Char) (outer : List (List Char)) :
    read (']' :: cs) ⟨text, above :: outer⟩ =
      read cs ⟨above ++ (if hasToken text then [] else text), outer⟩ := by
  rw [read, if_neg (by decide), if_pos rfl]
  rfl

theorem read_group {span : List Char} (hopen : '[' ∉ span) (hclose : ']' ∉ span)
    (after : List Char) (s : Levels) : read ('[' :: (span ++ ']' :: after)) s =
      read after ⟨s.text ++ (if hasToken span then [] else span), s.outer⟩ := by
  rw [read_open, read_append, read_of_not_mem hopen hclose, Option.bind_some, List.nil_append,
    read_close]

/-- The text of a template is read as its residue. -/
theorem read_print (h : t.Plain) (s : Levels) :
    read t.print s = some ⟨s.text ++ t.residue, s.outer⟩ := by
  induction t generalizing s with
  | nil => rw [print, read, residue, List.append_nil]
  | literal text rest ih =>
    rw [print, read_append, read_of_not_mem h.1.2.1 h.1.2.2, Option.bind_some, ih h.2, residue,
      List.append_assoc]
  | placeholder name rest ih =>
    obtain ⟨hopen, hclose⟩ := h.1.not_mem_token
    rw [print_placeholder, read_append, read_of_not_mem hopen hclose, Option.bind_some, ih h.2,
      residue, List.append_assoc]
  | optional inner rest ihi ihr =>
    rw [print, read_open, read_append, ihi h.1, Option.bind_some, List.nil_append, read_close,
      ihr h.2, hasToken_residue h.1, residue, List.append_assoc]
    cases inner.required <;> rfl

/-- To collapse a group of a text does not change what it is read as. -/
theorem read_of_collapse (h : Collapse cs ds) (s : Levels) : read cs s = read ds s := by
  cases h with
  | @drop before span after hopen hclose htoken =>
    rw [read_append, read_append]
    congr 1
    funext s
    rw [read_group hopen hclose, if_pos htoken, List.append_nil]
  | @keep before span after hopen hclose htoken =>
    rw [read_append, read_append]
    congr 1
    funext s
    rw [read_group hopen hclose, htoken, read_append, read_of_not_mem hopen hclose]
    rfl

theorem read_of_collapses (h : Relation.ReflTransGen Collapse cs ds) (s : Levels) :
    read cs s = read ds s := by
  induction h with
  | refl => rfl
  | tail _ hstep ih => rw [ih, read_of_collapse hstep]

/-- Without closing brackets each opening one leads a level deeper. -/
theorem length_outer_of_read {s s' : Levels} (hclose : ']' ∉ cs) (h : read cs s = some s') :
    s'.outer.length = s.outer.length + cs.count '[' := by
  induction cs generalizing s with
  | nil =>
    cases h
    rfl
  | cons c cs ih =>
    rw [List.mem_cons, not_or] at hclose
    rw [read] at h
    split at h
    · rename_i hc
      rw [ih hclose.2 h, hc, List.count_cons_self]
      simp only [List.length_cons]
      omega
    · rename_i hc
      rw [if_neg (Ne.symm hclose.1)] at h
      rw [ih hclose.2 h, List.count_cons_of_ne hc]

end Levels

/-! ## Settled texts -/

theorem Collapse.cons (h : Collapse cs ds) (c : Char) : Collapse (c :: cs) (c :: ds) := by
  cases h with
  | @drop before _ _ hopen hclose htoken => exact @drop (c :: before) _ _ hopen hclose htoken
  | @keep before _ _ hopen hclose htoken => exact @keep (c :: before) _ _ hopen hclose htoken

theorem Collapse.length_lt (h : Collapse cs ds) : ds.length < cs.length := by
  cases h with
  | drop | keep =>
    simp only [List.length_append, List.length_cons]
    omega

/-- A closing bracket after an opening one ends some group that can be collapsed. -/
theorem exists_collapse (hopen : '[' ∈ ds) (hclose : ']' ∉ ds) (cs : List Char) :
    ∃ es, Collapse (ds ++ ']' :: cs) es := by
  induction ds with
  | nil => cases hopen
  | cons d ds ih =>
    have hclose' : ']' ∉ ds := fun h => hclose (List.mem_cons_of_mem _ h)
    by_cases hmem : '[' ∈ ds
    · obtain ⟨es, hes⟩ := ih hmem hclose'
      exact ⟨d :: es, hes.cons d⟩
    · -- the last opening bracket stands in front
      obtain rfl : '[' = d := (List.mem_cons.mp hopen).resolve_right hmem
      cases htoken : hasToken ds with
      | true => exact ⟨_, @Collapse.drop [] _ _ hmem hclose' htoken⟩
      | false => exact ⟨_, @Collapse.keep [] _ _ hmem hclose' htoken⟩

/-- A settled text that is read to its end has no groups. -/
theorem eq_of_settled (h : Settled cs) (hread : Levels.read cs ⟨[], []⟩ = some ⟨ds, []⟩) :
    cs = ds := by
  have hclose : ']' ∉ cs := by
    intro hmem
    obtain ⟨before, after, rfl, hbefore⟩ := List.eq_append_cons_of_mem hmem
    by_cases hopen : '[' ∈ before
    · obtain ⟨es, hes⟩ := exists_collapse hopen hbefore after
      exact h es hes
    · rw [Levels.read_append, Levels.read_of_not_mem hopen hbefore] at hread
      cases hread
  have hopen : '[' ∉ cs := by
    have hlen := Levels.length_outer_of_read hclose hread
    rw [← List.count_eq_zero]
    simpa using hlen.symm
  rw [Levels.read_of_not_mem hopen hclose] at hread
  exact congrArg Levels.text (Option.some.inj hread)

/-- Every text can be settled. -/
theorem exists_settled (cs : List Char) :
    ∃ ds, Relation.ReflTransGen Collapse cs ds ∧ Settled ds := by
  induction hn : cs.length using Nat.strongRecOn generalizing cs with
  | ind n ih =>
    by_cases h : Settled cs
    · exact ⟨cs, .refl, h⟩
    · obtain ⟨ds, hds⟩ : ∃ ds, Collapse cs ds := by
        simpa [Settled] using h
      obtain ⟨es, hes, hsettled⟩ := ih ds.length (hn ▸ hds.length_lt) ds rfl
      exact ⟨es, .head hds hes, hsettled⟩

/-- However the groups in the text of a template are collapsed, the residue is left. -/
theorem eq_residue_of_settled (h : t.Plain) (hrun : Relation.ReflTransGen Collapse t.print ds)
    (hsettled : Settled ds) : ds = t.residue := by
  refine eq_of_settled hsettled ?_
  rw [← Levels.read_of_collapses hrun, Levels.read_print h, List.nil_append]

/-! ## Filling -/

/-- A template is filled to the residue that is left when the values were supplied, if no
placeholder is left with it. -/
theorem fill_eq_residue (ps : Parameters) (t : Template) :
    t.fill ps = if (t.supply fun name => (ps[name]?).join).required = [] then
      some (t.supply fun name => (ps[name]?).join).residue else none := by
  induction t with
  | nil => rfl
  | literal text rest ih =>
    rw [fill, ih, supply, required, residue]
    split <;> rfl
  | placeholder name rest ih =>
    cases hv : (ps[name]?).join with
    | none => simp [fill, supply, hv, required]
    | some value =>
      simp only [fill, supply, hv, required, residue, ih]
      split <;> rfl
  | optional inner rest ihi ihr =>
    rw [fill, ihi, ihr, supply, required, residue]
    split
    · split <;> rfl
    · split <;> rfl

end PathRoute.Template
