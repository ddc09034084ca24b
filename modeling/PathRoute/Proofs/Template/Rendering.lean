import PathRoute.Route.Build

/-!
# Filling in one walk

A template is filled by one walk over all of its items. The walk goes into every optional group,
takes the values that it meets there, and decides behind the group whether its text is kept. So the
values that are taken are those of all placeholders with a value, in kept groups and in others.
-/

namespace PathRoute.Template

/-- What a walk over a template gives. -/
structure Rendering where
  /-- The text, without that of groups that are left out. -/
  text : List Char := []
  /-- Whether every placeholder outside of the groups has a value. -/
  complete : Bool := true
  /-- The placeholders whose values were taken. -/
  taken : List String := []

def render (ps : Parameters) : Template → Rendering
  | .nil => {}
  | .literal text rest =>
    let later := rest.render ps
    { later with text := text.toList ++ later.text }
  | .placeholder name rest =>
    let later := rest.render ps
    match (ps[name]?).join with
    | some value => { later with text := value.toList ++ later.text, taken := name :: later.taken }
    | none => { later with complete := false }
  | .optional inner rest =>
    let group := inner.render ps
    let later := rest.render ps
    { later with
      text := (if group.complete then group.text else []) ++ later.text
      taken := group.taken ++ later.taken }

variable {t : Template} {ps qs : Parameters} {name : String}

/-- A template is filled if the walk is complete, with the text of the walk. -/
theorem fill_eq_render (ps : Parameters) (t : Template) :
    t.fill ps = if (t.render ps).complete then some (t.render ps).text else none := by
  induction t with
  | nil => rfl
  | literal text rest ih =>
    simp only [fill, render, ih]
    split <;> simp_all
  | placeholder name rest ih =>
    cases hvalue : (ps[name]?).join with
    | none => simp [fill, render, hvalue]
    | some value =>
      simp only [fill, render, hvalue, ih]
      split <;> simp_all
  | optional inner rest ihi ihr =>
    simp only [fill, render, ihi, ihr]
    split <;> split <;> simp_all

/-- The walk takes the values of all placeholders, wherever they stand. -/
theorem mem_taken_iff :
    name ∈ (t.render ps).taken ↔ name ∈ t.names ∧ ((ps[name]?).join).isSome = true := by
  induction t with
  | nil => simp [render, names]
  | literal _ _ ih => exact ih
  | placeholder other rest ih =>
    cases hvalue : (ps[other]?).join with
    | none =>
      simp only [render, hvalue, names, List.mem_cons, ih]
      grind
    | some value =>
      simp only [render, hvalue, names, List.mem_cons, ih]
      grind
  | optional inner rest ihi ihr =>
    simp only [render, names, List.mem_append, ihi, ihr, or_and_right]

/-- The walk depends on nothing but the values of the template's placeholders. -/
theorem render_congr (h : ∀ name ∈ t.names, (ps[name]?).join = (qs[name]?).join) :
    t.render ps = t.render qs := by
  induction t with
  | nil => rfl
  | literal _ _ ih => simp only [render, ih h]
  | placeholder name rest ih =>
    have hrest := ih fun n hn => h n (List.mem_cons_of_mem _ hn)
    simp only [render, hrest, h name List.mem_cons_self]
  | optional inner rest ihi ihr =>
    have hinner := ihi fun n hn => h n (List.mem_append_left _ hn)
    have hrest := ihr fun n hn => h n (List.mem_append_right _ hn)
    simp only [render, hinner, hrest]

end PathRoute.Template
