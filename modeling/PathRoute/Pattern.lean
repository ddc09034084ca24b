import PathRoute.Placeholders
import PathRoute.Regex.Parser
import PathRoute.Regex.Search
import PathRoute.Template.Parser
import PathRoute.Template.Requirement

/-!
# Compiled templates

A template as an anchored regular expression. Each placeholder and each optional group becomes one
capturing group, and requirements are changed so that they open none of their own: so the
groups of the expression are numbered as the template's capture order is.
-/

namespace PathRoute

namespace Template

/-- The requirement of a placeholder without captures. -/
def requirement (ps : Placeholders) (name : String) : String :=
  Requirement.withoutCaptures (ps.rules name).requirement

/-- The expression for a template, without anchors. -/
def body (ps : Placeholders) : Template → List Char
  | .nil => []
  | .literal text rest => Regex.quote text.toList ++ rest.body ps
  | .placeholder name rest =>
    '(' :: ((requirement ps name).toList ++
      ((if (ps.rules name).default.isSome then [')', '?'] else [')']) ++ rest.body ps))
  | .optional inner rest => '(' :: (inner.body ps ++ (')' :: '?' :: rest.body ps))

/-- The expression for whole paths. -/
def expression (ps : Placeholders) (t : Template) : String :=
  .ofList ('^' :: (t.body ps ++ ['$']))

end Template

/-- Why a template cannot be compiled. -/
inductive PatternError where
  | template (fault : Template.Fault)
  /-- The requirement of a placeholder is no regular expression. -/
  | invalidRequirement (name : String) (cause : Regex.Error)
  /-- The requirements are regular expressions, but the whole is not. -/
  | invalidExpression (cause : Regex.Error)
  /-- The expression has another number of groups than the template. -/
  | captureMismatch (groups entries : Nat)
  deriving DecidableEq, Repr

/-- The message for a template that cannot be compiled. -/
def PatternError.message (path : String) : PatternError → String
  | .template (.unclosedGroup position) =>
    s!"unclosed optional group opened at byte {position} in '{path}'"
  | .template (.unexpectedClose position) => s!"unexpected ']' at byte {position} in '{path}'"
  | .template (.duplicatePlaceholder name) =>
    s!"placeholder <{name}> appears more than once in '{path}'"
  | .invalidRequirement name cause =>
    s!"invalid requirement for placeholder <{name}>: {cause.message}"
  | .invalidExpression cause =>
    s!"template '{path}' compiles to an invalid expression: {cause.message}"
  | .captureMismatch groups entries =>
    s!"template '{path}' has {groups} capture groups but {entries} capture entries"

namespace Template

/-- Why the requirement of a placeholder is no regular expression without its captures. -/
def rejection? (ps : Placeholders) (name : String) : Option Regex.Error :=
  match Regex.parse (requirement ps name) with
  | .error cause => some cause
  | .ok _ => none

theorem rejection?_eq_some_iff {ps : Placeholders} {name : String} {cause : Regex.Error} :
    rejection? ps name = some cause ↔ Regex.parse (requirement ps name) = .error cause := by
  cases h : Regex.parse (requirement ps name) <;> simp [rejection?, h]

theorem rejection?_eq_none_iff {ps : Placeholders} {name : String} :
    rejection? ps name = none ↔ ∃ regex, Regex.parse (requirement ps name) = .ok regex := by
  cases h : Regex.parse (requirement ps name) <;> simp [rejection?, h]

/-- The first placeholder whose requirement without captures is no regular expression, and why. -/
def badRequirement? (ps : Placeholders) (t : Template) : Option (String × Regex.Error) :=
  t.names.findSome? fun name => (rejection? ps name).map (name, ·)

theorem badRequirement?_eq_none_iff {ps : Placeholders} {t : Template} :
    t.badRequirement? ps = none ↔
      ∀ name ∈ t.names, ∃ regex, Regex.parse (requirement ps name) = .ok regex := by
  simp [badRequirement?, rejection?_eq_none_iff]

/-- What has been written for the front of a template: the text, and what its groups stand for. -/
structure Output where
  text : List Char := []
  order : List (Option String) := []
  deriving DecidableEq, Repr

/-- Write the expression for a template, up to the first placeholder whose requirement is no regular
expression. -/
def emit (ps : Placeholders) : Template → Output → Except PatternError Output
  | .nil, out => .ok out
  | .literal text rest, out => rest.emit ps { out with text := out.text ++ Regex.quote text.toList }
  | .placeholder name rest, out => do
    let _ ← (Regex.parse (requirement ps name)).mapError (.invalidRequirement name)
    rest.emit ps {
      text := out.text ++ '(' :: ((requirement ps name).toList ++
        if (ps.rules name).default.isSome then [')', '?'] else [')'])
      order := out.order ++ [some name] }
  | .optional inner rest, out => do
    let out ← inner.emit ps { text := out.text ++ ['('], order := out.order ++ [none] }
    rest.emit ps { out with text := out.text ++ [')', '?'] }

/-- If all requirements are regular expressions, the body is written with the capture order. -/
theorem emit_eq (ps : Placeholders) (t : Template) (out : Output) : t.emit ps out =
    match t.badRequirement? ps with
    | some (name, cause) => .error (.invalidRequirement name cause)
    | none => .ok { text := out.text ++ t.body ps, order := out.order ++ t.captureOrder } := by
  induction t generalizing out with
  | nil => simp [emit, badRequirement?, names, body, captureOrder]
  | literal text rest ih =>
    have hbad : (literal text rest).badRequirement? ps = rest.badRequirement? ps := rfl
    simp only [emit, ih, hbad, body, captureOrder, List.append_assoc]
  | placeholder name rest ih =>
    have hbad : (placeholder name rest).badRequirement? ps =
        ((rejection? ps name).map (name, ·)).or (rest.badRequirement? ps) := by
      rw [badRequirement?, names, List.findSome?_cons]
      cases rejection? ps name <;> rfl
    simp only [emit, ih, hbad, rejection?, body, captureOrder]
    cases Regex.parse (requirement ps name) with
    | error cause => rfl
    | ok regex =>
      simp only [mapError_ok, bind, Except.bind, Option.map_none, Option.none_or,
        List.append_assoc, List.cons_append, List.nil_append]
  | optional inner rest ihi ihr =>
    have hbad : (optional inner rest).badRequirement? ps =
        (inner.badRequirement? ps).or (rest.badRequirement? ps) := List.findSome?_append
    simp only [emit, ihi, hbad]
    cases inner.badRequirement? ps with
    | some bad => rfl
    | none =>
      simp only [Option.none_or, bind, Except.bind, ihr, body, captureOrder, List.append_assoc,
        List.cons_append, List.nil_append]

theorem emit_eq_ok_iff {ps : Placeholders} {t : Template} {out : Output} :
    t.emit ps {} = .ok out ↔
      t.badRequirement? ps = none ∧ { text := t.body ps, order := t.captureOrder } = out := by
  rw [emit_eq]
  cases t.badRequirement? ps <;> simp

end Template

/-- A template with its expression. -/
structure Pattern where
  /-- The template as it is written. -/
  path : String
  template : Template
  expression : String
  regex : Regex
  /-- What each capturing group stands for. -/
  captureOrder : List (Option String)
  /-- The placeholders outside every optional group. -/
  required : List String
  deriving DecidableEq, Repr

namespace Pattern

variable {path : String} {ps : Placeholders} {p : Pattern}

/-- Compile a written template under the rules for its placeholders. -/
def compile (path : String) (ps : Placeholders) : Except PatternError Pattern := do
  let template ← (Template.parse path).mapError .template
  let out ← template.emit ps {}
  let expression := String.ofList ('^' :: (out.text ++ ['$']))
  let regex ← (Regex.parse expression).mapError .invalidExpression
  let entries := out.order.length
  if regex.groupCount ≠ entries then throw (.captureMismatch regex.groupCount entries)
  return {
    path, template, expression, regex, captureOrder := out.order, required := template.required }

/-- The names of the placeholders in template order. -/
def names (p : Pattern) : List String := p.captureOrder.filterMap id

/-- What is known of a template that has been compiled. -/
structure Compiled (path : String) (ps : Placeholders) (p : Pattern) : Prop where
  path_eq : p.path = path
  parse_path : Template.parse path = .ok p.template
  requirements : p.template.badRequirement? ps = none
  expression_eq : p.expression = p.template.expression ps
  parse_expression : Regex.parse p.expression = .ok p.regex
  captureOrder_eq : p.captureOrder = p.template.captureOrder
  required_eq : p.required = p.template.required
  groupCount_eq : p.regex.groupCount = p.captureOrder.length

/-- The stored order lists the placeholders of the template. -/
theorem Compiled.names_eq (h : Compiled path ps p) : p.names = p.template.names := by
  rw [names, h.captureOrder_eq, Template.names_eq]

theorem compiled_of_compile (h : compile path ps = .ok p) : Compiled path ps p := by
  simp only [compile, bind, Except.bind, pure, Except.pure, throw, throwThe,
    MonadExceptOf.throw] at h
  repeat' split at h
  all_goals try cases h
  rename_i t ht _ out hout _ regex hregex hcount
  obtain ⟨hbad, rfl⟩ := Template.emit_eq_ok_iff.mp hout
  exact ⟨rfl, mapError_eq_ok_iff.mp ht, hbad, rfl, mapError_eq_ok_iff.mp hregex, rfl, rfl,
    Decidable.not_not.mp hcount⟩

/-- The texts that the groups capture in a path, from the whole match on. -/
def captures? (p : Pattern) (path : String) : Option (List (Option String)) :=
  (p.regex.captures path.toList).map fun groups =>
    groups.map fun place => place.map fun place => .ofList (Regex.textAt path.toList place)

end Pattern

end PathRoute
