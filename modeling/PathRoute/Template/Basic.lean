/-!
# Path templates

A template is a sequence of items: literal text, placeholders, and optional groups of items. Each
item carries the items that follow it at its level.
-/

namespace PathRoute

inductive Template where
  | nil
  | literal (text : String) (rest : Template)
  | placeholder (name : String) (rest : Template)
  | optional (inner rest : Template)
  deriving DecidableEq, Repr

namespace Template

/-- A template as it is written. -/
def print : Template → List Char
  | .nil => []
  | .literal text rest => text.toList ++ rest.print
  | .placeholder name rest => '<' :: (name.toList ++ '>' :: rest.print)
  | .optional inner rest => '[' :: (inner.print ++ ']' :: rest.print)

/-- What each capturing group of a template stands for, in the order of their openings: the name of
a placeholder, or nothing for an optional group. -/
def captureOrder : Template → List (Option String)
  | .nil => []
  | .literal _ rest => rest.captureOrder
  | .placeholder name rest => some name :: rest.captureOrder
  | .optional inner rest => none :: (inner.captureOrder ++ rest.captureOrder)

/-- The names of all placeholders in template order. -/
def names : Template → List String
  | .nil => []
  | .literal _ rest => rest.names
  | .placeholder name rest => name :: rest.names
  | .optional inner rest => inner.names ++ rest.names

/-- The placeholders outside every optional group. -/
def required : Template → List String
  | .nil => []
  | .literal _ rest => rest.required
  | .placeholder name rest => name :: rest.required
  | .optional _ rest => rest.required

theorem names_eq (t : Template) : t.names = t.captureOrder.filterMap id := by
  induction t with
  | nil => rfl
  | literal _ _ ih => exact ih
  | placeholder _ _ ih => simp [names, captureOrder, ih]
  | optional _ _ ihi ihr => simp [names, captureOrder, ihi, ihr]

theorem required_sublist (t : Template) : t.required.Sublist t.names := by
  induction t with
  | nil => exact .slnil
  | literal _ _ ih => exact ih
  | placeholder _ _ ih => exact ih.cons_cons _
  | optional _ _ _ ihr => exact ihr.trans (List.sublist_append_right ..)

/-- The slashes at the front of a template. -/
def leadingSlashes : Template → Nat
  | .literal text _ => (text.toList.takeWhile (· == '/')).length
  | _ => 0

end Template

end PathRoute
