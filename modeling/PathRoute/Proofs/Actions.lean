import Mathlib.Data.List.Nodup
import PathRoute.Actions
import PathRoute.Proofs.Overwriting

/-!
# Tables of actions after calls

A table is changed by calls, each of which writes the action of one verb or changes nothing. However
many calls there were, a verb has the action that was written last, no verb has lost its action, and
all that can be asked of the table agrees on this.
-/

namespace PathRoute

namespace Actions

/-- A call that changes a table. -/
inductive Call where
  /-- Give a verb its default action. -/
  | enable (v : Verb)
  | set (v : Verb) (action : String)
  /-- Set an action, for a verb or else for the verb whose default it is. -/
  | setAction (action : String) (v : Option Verb)
  deriving DecidableEq, Repr

namespace Call

/-- The table after a call. An action that finds no place leaves the table as it was. -/
def apply (t : Actions) : Call → Actions
  | .enable v => t.enable v
  | .set v action => t.set v action
  | .setAction action v => (t.setAction? action v).getD t

/-- The action that a call writes for a verb. -/
def writes? (v : Verb) : Call → Option String
  | .enable w => if w = v then some w.defaultAction else none
  | .set w action => if w = v then some action else none
  | .setAction action (some w) => if w = v then some action else none
  | .setAction action none => if v.defaultAction = action then some action else none

end Call

/-- The table after calls, the first one first. -/
def after (t : Actions) (calls : List Call) : Actions := calls.foldl Call.apply t

variable {t : Actions} {v w : Verb} {action text : String}

theorem after_append (t : Actions) (calls more : List Call) :
    t.after (calls ++ more) = (t.after calls).after more := List.foldl_append

/-! ## One call -/

theorem setAction?_some (t : Actions) (action : String) (v : Verb) :
    t.setAction? action (some v) = some (t.set v action) := rfl

theorem setAction?_none (t : Actions) (action : String) :
    t.setAction? action none = (Verb.ofDefaultAction? action).map (t.set · action) := rfl

/-- An action finds no place if no verb is given for it and it is no verb's default. -/
theorem setAction?_eq_none_iff {v : Option Verb} :
    t.setAction? action v = none ↔ v = none ∧ ∀ w : Verb, w.defaultAction ≠ action := by
  cases v with
  | some v => simp [setAction?_some]
  | none =>
    simp [setAction?_none, Option.eq_none_iff_forall_ne_some, Verb.ofDefaultAction?_eq_some_iff]

/-- A call writes an action for one verb at most and leaves the others alone. -/
theorem get_apply (t : Actions) (call : Call) (v : Verb) :
    (call.apply t).get v = (call.writes? v).or (t.get v) := by
  have hset : ∀ w action, (t.set w action).get v =
      (if w = v then some action else none).or (t.get v) := by
    intro w action
    rw [get_set]
    split <;> rfl
  cases call with
  | enable w => exact hset w w.defaultAction
  | set w action => exact hset w action
  | setAction action w =>
    cases w with
    | some w => exact hset w action
    | none =>
      rw [Call.apply, setAction?_none, Call.writes?]
      cases hverb : Verb.ofDefaultAction? action with
      | some w =>
        have hdefault : w = v ↔ v.defaultAction = action := by
          rw [← Verb.ofDefaultAction?_eq_some_iff, hverb, Option.some_inj]
        simp only [← hdefault]
        exact hset w action
      | none =>
        have hdefault : v.defaultAction ≠ action := by
          intro h
          rw [← Verb.ofDefaultAction?_eq_some_iff, hverb] at h
          cases h
        rw [if_neg hdefault]
        rfl

/-! ## Several calls -/

/-- A verb has the action that was written last, or else the one that it had. -/
theorem get_after (t : Actions) (calls : List Call) (v : Verb) :
    (t.after calls).get v = ((calls.filterMap (Call.writes? v)).getLast?).or (t.get v) :=
  foldl_eq_getLast?_or (f := fun t => t.get v) (fun t call _ => get_apply t call v) t

/-- No call takes its action from a verb. -/
theorem isSome_get_after (h : (t.get v).isSome) (calls : List Call) :
    ((t.after calls).get v).isSome := by
  rw [get_after, Option.isSome_or, h, Bool.or_true]

/-! ## What is asked of a table -/

theorem verbs_sublist (t : Actions) : t.verbs.Sublist Verb.all := List.filter_sublist

theorem nodup_verbs (t : Actions) : t.verbs.Nodup :=
  List.Nodup.sublist t.verbs_sublist (by decide)

theorem contains_iff_exists_mem :
    t.contains action = true ↔ ∃ v ∈ t.verbs, t.get v = some action := by
  rw [contains_iff]
  constructor
  · rintro ⟨v, hv⟩
    exact ⟨v, mem_verbs.mpr (by rw [hv]; rfl), hv⟩
  · rintro ⟨v, -, hv⟩
    exact ⟨v, hv⟩

theorem forText?_of_name (h : (trim text).toUpper = v.name) : t.forText? text = t.get v := by
  rw [forText?, Verb.ofText?_eq_some_iff.mpr h, Option.bind_some]

theorem forText?_eq_none (h : ∀ v : Verb, (trim text).toUpper ≠ v.name) :
    t.forText? text = none := by
  have hverb : Verb.ofText? text = none := by
    rw [Option.eq_none_iff_forall_ne_some]
    intro v hv
    exact h v (Verb.ofText?_eq_some_iff.mp hv)
  rw [forText?, hverb, Option.bind_none]

/-- A text that stands for the entry of a verb whatever calls come is the name of that verb: another
verb could be given another action, and what is no verb's name never stands for anything. -/
theorem name_of_forText? (h : ∀ calls, (t.after calls).forText? text = (t.after calls).get v) :
    (trim text).toUpper = v.name := by
  have hfirst := h [.set v "a"]
  simp only [after, List.foldl_cons, List.foldl_nil, Call.apply, get_set, if_true] at hfirst
  obtain ⟨w, hw, -⟩ := forText?_eq_some_iff.mp hfirst
  have heq : w = v := by
    refine Decidable.byContradiction fun hne => ?_
    have hsecond := h [.set v "a", .set w "b"]
    simp [after, Call.apply, forText?, hw, hne] at hsecond
  exact heq ▸ Verb.ofText?_eq_some_iff.mp hw

/-- Whatever calls there were: each verb has the action that was written last, or else the one that
it had; an action finds no place only if no verb is given for it and it is no verb's default, and
then nothing changes; no call takes its action from a verb; the verbs with an action are listed
once, in their order; an action is contained if a listed verb has it; and a text stands for the
entry of a verb if and only if it is the name of the verb but for case and blank ends. -/
theorem table_after_calls (t : Actions) (calls : List Call) :
    (∀ v, (t.after calls).get v = ((calls.filterMap (Call.writes? v)).getLast?).or (t.get v)) ∧
    (∀ action v, (t.after calls).setAction? action v = none ↔
      v = none ∧ ∀ w : Verb, w.defaultAction ≠ action) ∧
    (∀ action v, (t.after calls).setAction? action v = none →
      t.after (calls ++ [.setAction action v]) = t.after calls) ∧
    (∀ v more, ((t.after calls).get v).isSome → ((t.after (calls ++ more)).get v).isSome) ∧
    ((t.after calls).verbs.Sublist Verb.all ∧ (t.after calls).verbs.Nodup ∧
      ∀ v, v ∈ (t.after calls).verbs ↔ ((t.after calls).get v).isSome) ∧
    (∀ action, (t.after calls).contains action = true ↔
      ∃ v ∈ (t.after calls).verbs, (t.after calls).get v = some action) ∧
    ∀ text,
      (∀ v, (∀ more, (t.after (calls ++ more)).forText? text = (t.after (calls ++ more)).get v) ↔
        (trim text).toUpper = v.name) ∧
      ((∀ v : Verb, (trim text).toUpper ≠ v.name) → (t.after calls).forText? text = none) := by
  simp only [after_append]
  refine ⟨get_after t calls, fun _ _ => setAction?_eq_none_iff, fun action v h => ?_,
    fun v more h => isSome_get_after h more,
    ⟨verbs_sublist _, nodup_verbs _, fun v => mem_verbs⟩, fun action => contains_iff_exists_mem,
    fun text => ⟨fun v => ⟨name_of_forText?, fun h more => forText?_of_name h⟩, forText?_eq_none⟩⟩
  rw [after, List.foldl_cons, List.foldl_nil, Call.apply, h, Option.getD_none]

end Actions

end PathRoute
