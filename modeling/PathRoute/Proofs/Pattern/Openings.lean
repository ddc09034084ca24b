import Mathlib.Data.List.Forall2
import PathRoute.Proofs.Pattern.Expression
import PathRoute.Proofs.Pattern.Reporting
import PathRoute.Proofs.Regex.Erasure

/-!
# Groups where no requirement is set

Without requirements of its own a template is written as an expression that can only be refused for
its size or for its depth. Its capturing groups are those of the template and no others: the marks
of the written template from left to right, numbered one after the other, each at its depth.
-/

namespace PathRoute

namespace Regex

/-- A capturing group where it stands in an expression. -/
structure Opening where
  /-- How many groups it stands in. -/
  depth : Nat
  number : Nat
  content : Regex

/-- The capturing groups of an expression from left to right. -/
def openings (depth : Nat) : Regex → List Opening
  | .empty | .char _ | .look _ => []
  | .seq a b | .alt a b => a.openings depth ++ b.openings depth
  | .plus _ a => a.openings depth
  | .group i a => ⟨depth, i, a⟩ :: a.openings (depth + 1)

variable {a : Regex} {as : List Regex}

theorem map_number_openings (a : Regex) (depth : Nat) :
    (a.openings depth).map (·.number) = a.groups := by
  induction a generalizing depth with
  | empty | char | look => rfl
  | seq a b iha ihb | alt a b iha ihb => rw [openings, groups, List.map_append, iha, ihb]
  | plus _ a ih => exact ih depth
  | group i a ih => exact congrArg (i :: ·) (ih (depth + 1))

theorem openings_seqs (as : List Regex) (depth : Nat) :
    (seqs as).openings depth = as.flatMap (openings depth) := by
  induction as with
  | nil => rfl
  | cons a as ih =>
    cases as with
    | nil => simp [seqs]
    | cons b as => exact congrArg (a.openings depth ++ ·) ih

theorem openings_opt (greedy : Bool) (a : Regex) (depth : Nat) :
    (opt greedy a).openings depth = a.openings depth := by
  cases greedy <;> simp [opt, openings]

/-- A bound on all numbers is a bound on the count. -/
theorem groupCount_le {n : Nat} (h : ∀ g ∈ a.groups, g ≤ n) : a.groupCount ≤ n := by
  induction a with
  | empty | char | look => exact Nat.zero_le n
  | seq a b iha ihb | alt a b iha ihb =>
    obtain ⟨ha, hb⟩ := List.forall_mem_append.mp h
    exact Nat.max_le.mpr ⟨iha ha, ihb hb⟩
  | plus _ a ih => exact ih h
  | group i a ih =>
    obtain ⟨hi, ha⟩ := List.forall_mem_cons.mp h
    exact Nat.max_le.mpr ⟨hi, ih ha⟩

/-- Groups that are numbered one after the other are counted by the last number. -/
theorem groupCount_of_range' {n : Nat} (h : a.groups = List.range' 1 n) : a.groupCount = n := by
  have hle : a.groupCount ≤ n := groupCount_le fun g hg => by
    rw [h, List.mem_range'_1] at hg
    omega
  cases n with
  | zero => omega
  | succ n =>
    have hmem : n + 1 ∈ a.groups := by
      rw [h, List.mem_range'_1]
      omega
    have := le_groupCount hmem
    omega

/-- The group is the one for a mark with a number: it stands at the depth of the mark, has the
number, and holds words of at least one character if the mark is a placeholder. -/
structure Opening.StandsFor (o : Opening) (m : (Nat × Option String) × Nat) : Prop where
  depth : o.depth = m.1.1
  number : o.number = m.2
  content : ∀ name, m.1.2 = some name → o.content = .plus true (.char .word)

end Regex

open Regex

namespace Template

variable {ps : Placeholders}

theorem length_marks (t : Template) (depth : Nat) :
    (t.marks depth).length = t.captureOrder.length := by
  rw [← map_snd_marks t depth, List.length_map]

/-- The groups that are written for a template are its marks, numbered one after the other. -/
theorem forall₂_standsFor (ps : Placeholders) (t : Template) (n depth : Nat) :
    List.Forall₂ Opening.StandsFor ((t.regexes ps n).flatMap (openings depth))
      ((t.marks depth).zipIdx (n + 1)) := by
  induction t generalizing n depth with
  | nil => exact .nil
  | literal text rest ih =>
    have hnone : (text.toList.map Regex.single).flatMap (openings depth) = [] := by
      simp [List.flatMap_eq_nil_iff, Regex.single, openings]
    rw [regexes, List.flatMap_append, hnone, List.nil_append]
    exact ih n depth
  | placeholder name rest ih =>
    have hvalue : openings depth (if (ps.rules name).default.isSome
        then opt true (.group (n + 1) (.plus true (.char .word)))
        else .group (n + 1) (.plus true (.char .word))) =
        [⟨depth, n + 1, .plus true (.char .word)⟩] := by
      split <;> simp [openings_opt, openings]
    rw [regexes, List.flatMap_cons, hvalue, marks, List.zipIdx_cons]
    exact .cons ⟨rfl, rfl, fun _ _ => rfl⟩ (ih (n + 1) depth)
  | optional inner rest ihi ihr =>
    rw [regexes, List.flatMap_cons, openings_opt, openings, openings_seqs, marks, List.zipIdx_cons,
      List.zipIdx_append, length_marks]
    refine .cons ⟨rfl, rfl, by simp⟩ (List.rel_append (ihi (n + 1) (depth + 1)) ?_)
    rw [Nat.add_right_comm (n + 1)]
    exact ihr (n + 1 + inner.captureOrder.length) depth

/-- Groups that stand for numbered marks have these numbers. -/
theorem map_number_of_standsFor {os : List Opening} {ms : List (Nat × Option String)} {n : Nat}
    (h : List.Forall₂ Opening.StandsFor os (ms.zipIdx n)) :
    os.map (·.number) = List.range' n ms.length := by
  rw [← List.zipIdx_map_snd n ms, ← List.forall₂_eq_eq_eq, List.forall₂_map_left_iff,
    List.forall₂_map_right_iff]
  exact h.imp fun _ _ hstands => hstands.number

/-- The anchors open no group. -/
theorem forall₂_standsFor_anchored (ps : Placeholders) (t : Template) :
    List.Forall₂ Opening.StandsFor
      ((seqs (.look .textStart :: (t.regexes ps 0 ++ [.look .textEnd]))).openings 0)
      ((t.marks 0).zipIdx 1) := by
  have hitems := forall₂_standsFor ps t 0 0
  simpa [openings_seqs, openings] using hitems

theorem accepts_of_unrestricted {t : Template} (ht : t.Unrestricted ps) :
    ∀ name ∈ t.names, ps.Accepts name := by
  intro name hname
  have hok :
      (Regex.parse (Requirement.withoutCaptures ({} : Placeholder).requirement)).isOk = true := by
    decide +kernel
  rw [Placeholders.Accepts, ht name hname]
  exact exists_of_isOk hok

end Template

namespace Pattern

open Template

variable {path : String} {ps : Placeholders} {t : Template}

/-- What compiling comes to where no requirement is set is told by the limits on expressions. -/
theorem compile_cases (hparse : Template.parse path = .ok t) (ht : t.Unrestricted ps) :
    (∃ cause, compile path ps = .error (.invalidExpression cause) ∧
      Regex.parse (t.expression ps) = .error cause ∧
      (cause = .nestedTooDeep ∨ cause = .tooLarge)) ∨
    ∃ p, compile path ps = .ok p ∧ p.template = t ∧
      p.regex = seqs (.look .textStart :: (t.regexes ps 0 ++ [.look .textEnd])) := by
  have haccepts : ∀ name ∈ Token.names path.toList, ps.Accepts name := by
    rw [names_of_parse hparse]
    exact accepts_of_unrestricted ht
  rcases (t.readAs_expression ht).parse_cases with herror | herror | hregex
  · exact .inl ⟨_, (Outcome.expression hparse haccepts herror).compile_eq, herror, .inl rfl⟩
  · exact .inl ⟨_, (Outcome.expression hparse haccepts herror).compile_eq, herror, .inr rfl⟩
  · -- the numbers of the groups leave the check nothing to find
    have hnumbers := map_number_of_standsFor (forall₂_standsFor_anchored ps t)
    rw [map_number_openings, length_marks] at hnumbers
    exact .inr ⟨_, (Outcome.pattern hparse haccepts hregex
      (groupCount_of_range' hnumbers)).compile_eq, rfl, rfl⟩

/-- Where a template's placeholders have no requirements of their own, compiling it reports a fault
of the template, or that the expression is nested too deep or takes too much room, and nothing else.
What is compiled has one capturing group for each mark of the written template, in its order, with
numbers one after the other. -/
theorem compile_of_unrestricted (h : ∀ t, Template.parse path = .ok t → t.Unrestricted ps) :
    (∀ name cause, compile path ps ≠ .error (.invalidRequirement name cause)) ∧
    (∀ groups entries, compile path ps ≠ .error (.captureMismatch groups entries)) ∧
    ((∃ fault, Template.parse path = .error fault ∧ compile path ps = .error (.template fault)) ∨
    (∃ t cause, Template.parse path = .ok t ∧
      compile path ps = .error (.invalidExpression cause) ∧
      Regex.parse (t.expression ps) = .error cause ∧
      (cause = .nestedTooDeep ∨ cause = .tooLarge)) ∨
    ∃ p, compile path ps = .ok p ∧ p.captureOrder = (Token.marks 0 path.toList).map Prod.snd ∧
      p.regex.groupCount = p.captureOrder.length ∧
      List.Forall₂ Opening.StandsFor (p.regex.openings 0)
        ((Token.marks 0 path.toList).zipIdx 1)) := by
  cases hparse : Template.parse path with
  | error fault =>
    have hcompile : compile path ps = .error (.template fault) :=
      (Outcome.template hparse).compile_eq
    simp [hcompile]
  | ok t =>
    rcases compile_cases hparse (h t hparse) with
      ⟨cause, hcompile, hlimit⟩ | ⟨p, hcompile, rfl, hregex⟩
    · exact ⟨by simp [hcompile], by simp [hcompile], .inr (.inl ⟨t, cause, rfl, hcompile, hlimit⟩)⟩
    · have hmarks := marks_of_parse hparse 0
      have hc := compiled_of_compile hcompile
      refine ⟨by simp [hcompile], by simp [hcompile],
        .inr (.inr ⟨p, hcompile, ?_, hc.groupCount_eq, ?_⟩)⟩
      · rw [hmarks, map_snd_marks, hc.captureOrder_eq]
      · rw [hregex, hmarks]
        exact forall₂_standsFor_anchored ps p.template

/-- The signs of a literal open no group, and a default adds none. -/
theorem compile_of_unrestricted_export :
    let path := "/(<id>)?[/<action>[.<format>]]"
    let ps : Placeholders := Placeholders.setDefault ∅ "format" "json"
    ∃ p, compile path ps = .ok p ∧
      p.captureOrder = [some "id", none, some "action", none, some "format"] ∧
      List.Forall₂ Opening.StandsFor (p.regex.openings 0)
        [((0, some "id"), 1), ((0, none), 2), ((1, some "action"), 3), ((1, none), 4),
          ((2, some "format"), 5)] := by
  intro path ps
  have hok : ∃ p, compile path ps = .ok p ∧ p.template.marks 0 =
        [(0, some "id"), (0, none), (1, some "action"), (1, none), (2, some "format")] ∧
      ∀ name ∈ p.template.names, (ps.rules name).requirement = ({} : Placeholder).requirement := by
    decide +kernel
  obtain ⟨p, hp, hmarks, ht⟩ := hok
  have hparse := (compiled_of_compile hp).parse_path
  obtain ⟨-, -, hcases⟩ := compile_of_unrestricted fun t ht' => by
    obtain rfl := Except.ok.inj (hparse.symm.trans ht')
    exact ht
  rcases hcases with ⟨_, -, herror⟩ | ⟨_, _, -, herror, -⟩ | ⟨p', hcompile, horder, -, hstands⟩
  · cases hp.symm.trans herror
  · cases hp.symm.trans herror
  · rw [marks_of_parse hparse, hmarks] at horder hstands
    exact ⟨p', hcompile, horder, hstands⟩

end Pattern

end PathRoute
