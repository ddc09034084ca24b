import PathRoute.Pattern
import PathRoute.Proofs.Template.Marks

/-!
# What compiling a template comes to

A fault of the written template is reported before all else, then the first placeholder whose
requirement is rejected, and only then what is wrong with the whole expression. The rules are looked
at for the placeholders of the template alone, and of a default it only counts that there is one.
-/

namespace PathRoute

/-- Two tables have the same requirement for each of these names, and both have a default for it or
none of them has. -/
def Placeholders.AgreeOn (names : List String) (ps ps' : Placeholders) : Prop :=
  ∀ name ∈ names, (ps.rules name).requirement = (ps'.rules name).requirement ∧
    (ps.rules name).default.isSome = (ps'.rules name).default.isSome

/-- The requirement of a placeholder is a regular expression once it captures nothing. -/
def Placeholders.Accepts (ps : Placeholders) (name : String) : Prop :=
  ∃ regex, Regex.parse (Requirement.withoutCaptures (ps.rules name).requirement) = .ok regex

/-- The requirement of a placeholder is refused even if it captures nothing, for this cause. -/
def Placeholders.Rejects (ps : Placeholders) (name : String) (cause : Regex.Error) : Prop :=
  Regex.parse (Requirement.withoutCaptures (ps.rules name).requirement) = .error cause

theorem Placeholders.rules_insert_of_ne (ps : Placeholders) {name other : String}
    (h : other ≠ name) (rules : Placeholder) :
    Placeholders.rules (ps.insert name rules) other = ps.rules other := by
  rw [Placeholders.rules, Placeholders.rules, Std.ExtTreeMap.getElem?_insert, if_neg]
  simpa using h.symm

namespace Template

open Placeholders (AgreeOn Accepts Rejects)

variable {ps ps' : Placeholders} {t : Template} {name : String} {cause : Regex.Error}

/-- A rejected requirement is the first such one if those of all placeholders before it are
accepted. -/
theorem badRequirement?_eq_some_iff : t.badRequirement? ps = some (name, cause) ↔
    ∃ before after, t.names = before ++ name :: after ∧ Rejects ps name cause ∧
      ∀ other ∈ before, Accepts ps other := by
  rw [badRequirement?, List.findSome?_eq_some_iff]
  constructor
  · rintro ⟨before, other, after, heq, hbad, haccepts⟩
    obtain ⟨_, hrejects, hpair⟩ := Option.map_eq_some_iff.mp hbad
    cases hpair
    refine ⟨before, after, heq, rejection?_eq_some_iff.mp hrejects, fun other hother => ?_⟩
    exact rejection?_eq_none_iff.mp (Option.map_eq_none_iff.mp (haccepts other hother))
  · rintro ⟨before, after, heq, hrejects, haccepts⟩
    refine ⟨before, name, after, heq, ?_, fun other hother => ?_⟩
    · rw [rejection?_eq_some_iff.mpr hrejects]
      rfl
    · rw [rejection?_eq_none_iff.mpr (haccepts other hother)]
      rfl

/-! ## Tables that agree -/

/-- What is written, and whether it is written to the end, depends on the rules for the placeholders
of the template alone. -/
theorem emit_congr (h : AgreeOn t.names ps ps') (out : Output) :
    t.emit ps out = t.emit ps' out := by
  induction t generalizing out with
  | nil => rfl
  | literal text rest ih => exact ih h _
  | placeholder name rest ih =>
    obtain ⟨⟨hrequirement, hdefault⟩, hrest⟩ := List.forall_mem_cons.mp h
    have hsame : requirement ps name = requirement ps' name := by
      rw [requirement, hrequirement, requirement]
    rw [emit, emit, hsame, hdefault, ih hrest]
  | optional inner rest ihi ihr =>
    obtain ⟨hinner, hrest⟩ := List.forall_mem_append.mp h
    simp only [emit, ihi hinner, ihr hrest]

end Template

namespace Pattern

open Template
open Placeholders (AgreeOn Accepts Rejects)

variable {path : String} {ps ps' : Placeholders}

theorem compile_congr (h : AgreeOn (Token.names path.toList) ps ps') :
    compile path ps = compile path ps' := by
  unfold compile
  cases hparse : Template.parse path with
  | error fault => rfl
  | ok t =>
    rw [names_of_parse hparse] at h
    simp only [mapError_ok, bind, Except.bind, emit_congr h]

/-! ## Outcomes -/

/-- What compiling a written template comes to, in the order of what is looked at: the template, the
requirements of its placeholders from left to right, the whole expression, the number of groups. -/
inductive Outcome (path : String) (ps : Placeholders) : Except PatternError Pattern → Prop where
  | template {fault : Fault} (parse : Template.parse path = .error fault) :
      Outcome path ps (.error (.template fault))
  | requirement {t : Template} {before after : List String} {name : String} {cause : Regex.Error}
      (parse : Template.parse path = .ok t)
      (names : Token.names path.toList = before ++ name :: after)
      (accepts : ∀ other ∈ before, Accepts ps other)
      (rejects : Rejects ps name cause) :
      Outcome path ps (.error (.invalidRequirement name cause))
  | expression {t : Template} {cause : Regex.Error} (parse : Template.parse path = .ok t)
      (accepts : ∀ name ∈ Token.names path.toList, Accepts ps name)
      (rejects : Regex.parse (t.expression ps) = .error cause) :
      Outcome path ps (.error (.invalidExpression cause))
  | groups {t : Template} {regex : Regex} (parse : Template.parse path = .ok t)
      (accepts : ∀ name ∈ Token.names path.toList, Accepts ps name)
      (parse_expression : Regex.parse (t.expression ps) = .ok regex)
      (mismatch : regex.groupCount ≠ t.captureOrder.length) :
      Outcome path ps (.error (.captureMismatch regex.groupCount t.captureOrder.length))
  | pattern {t : Template} {regex : Regex} (parse : Template.parse path = .ok t)
      (accepts : ∀ name ∈ Token.names path.toList, Accepts ps name)
      (parse_expression : Regex.parse (t.expression ps) = .ok regex)
      (groupCount_eq : regex.groupCount = t.captureOrder.length) :
      Outcome path ps (.ok {
        path, template := t, expression := t.expression ps, regex
        captureOrder := t.captureOrder, required := t.required })

/-- If all requirements are accepted, the whole expression decides. -/
theorem compile_of_accepts {t : Template} (parse : Template.parse path = .ok t)
    (accepts : ∀ name ∈ Token.names path.toList, Accepts ps name) :
    compile path ps = do
      let regex ← (Regex.parse (t.expression ps)).mapError .invalidExpression
      if regex.groupCount ≠ t.captureOrder.length then
        throw (.captureMismatch regex.groupCount t.captureOrder.length)
      return {
        path, template := t, expression := t.expression ps, regex
        captureOrder := t.captureOrder, required := t.required } := by
  have hbad := badRequirement?_eq_none_iff.mpr (names_of_parse parse ▸ accepts)
  have hemit := emit_eq_ok_iff.mpr ⟨hbad, rfl⟩
  rw [compile, parse]
  simp only [mapError_ok, bind, Except.bind, hemit]
  rfl

/-- An outcome is what compiling comes to. -/
theorem Outcome.compile_eq {result : Except PatternError Pattern} (h : Outcome path ps result) :
    compile path ps = result := by
  cases h with
  | template parse =>
    rw [compile, parse]
    rfl
  | requirement parse names accepts rejects =>
    have hbad := badRequirement?_eq_some_iff.mpr
      ⟨_, _, (names_of_parse parse).symm.trans names, rejects, accepts⟩
    rw [compile, parse]
    simp only [mapError_ok, bind, Except.bind, emit_eq, hbad]
  | expression parse accepts rejects =>
    rw [compile_of_accepts parse accepts, rejects]
    rfl
  | groups parse accepts parse_expression mismatch =>
    rw [compile_of_accepts parse accepts, parse_expression]
    exact if_pos mismatch
  | pattern parse accepts parse_expression groupCount_eq =>
    rw [compile_of_accepts parse accepts, parse_expression]
    exact if_neg (not_not.mpr groupCount_eq)

theorem exists_outcome (path : String) (ps : Placeholders) : ∃ result, Outcome path ps result := by
  cases hparse : Template.parse path with
  | error fault => exact ⟨_, .template hparse⟩
  | ok t =>
    have hnames := names_of_parse hparse
    cases hbad : t.badRequirement? ps with
    | some bad =>
      obtain ⟨before, after, heq, hrejects, haccepts⟩ := badRequirement?_eq_some_iff.mp hbad
      exact ⟨_, .requirement hparse (hnames.trans heq) haccepts hrejects⟩
    | none =>
      have haccepts : ∀ name ∈ Token.names path.toList, Accepts ps name :=
        hnames ▸ badRequirement?_eq_none_iff.mp hbad
      cases hregex : Regex.parse (t.expression ps) with
      | error e => exact ⟨_, .expression hparse haccepts hregex⟩
      | ok regex =>
        by_cases hcount : regex.groupCount = t.captureOrder.length
        · exact ⟨_, .pattern hparse haccepts hregex hcount⟩
        · exact ⟨_, .groups hparse haccepts hregex hcount⟩

/-- Compiling a template has exactly this outcome: of all that is wrong, the first in the order of
the template is reported. Tables that agree on the placeholders of the template lead to the same, so
that entries for other names never matter. -/
theorem compile_eq_iff_outcome (path : String) (ps : Placeholders) :
    (∀ result, compile path ps = result ↔ Outcome path ps result) ∧
    (∀ ps', AgreeOn (Token.names path.toList) ps ps' → compile path ps' = compile path ps) ∧
    ∀ name rules, name ∉ Token.names path.toList →
      compile path (ps.insert name rules) = compile path ps := by
  refine ⟨fun result => ⟨?_, Outcome.compile_eq⟩, fun ps' h => (compile_congr h).symm,
    fun name rules hname => (compile_congr fun other hother => ?_).symm⟩
  · rintro rfl
    obtain ⟨result, h⟩ := exists_outcome path ps
    exact h.compile_eq ▸ h
  · have hne : other ≠ name := fun heq => hname (heq ▸ hother)
    rw [Placeholders.rules_insert_of_ne ps hne]
    exact ⟨rfl, rfl⟩

/-- The requirement of a placeholder within a group is rejected, and no entry for a name that the
template has not changes that. -/
theorem compile_rejects_slug :
    compile "/<id>[/<slug>]" {("slug", { requirement := "[a-z" })} =
        .error (.invalidRequirement "slug" .unclosedClass) ∧
      ∀ rules, compile "/<id>[/<slug>]"
          (({("slug", { requirement := "[a-z" })} : Placeholders).insert "page" rules) =
        .error (.invalidRequirement "slug" .unclosedClass) := by
  obtain ⟨-, -, hinsert⟩ :=
    compile_eq_iff_outcome "/<id>[/<slug>]" {("slug", { requirement := "[a-z" })}
  have hslug : compile "/<id>[/<slug>]" {("slug", { requirement := "[a-z" })} =
      .error (.invalidRequirement "slug" .unclosedClass) := by
    decide +kernel
  exact ⟨hslug, fun rules => (hinsert "page" rules (by decide +kernel)).trans hslug⟩

end Pattern

end PathRoute
