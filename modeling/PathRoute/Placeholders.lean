import Std.Data.ExtTreeMap

/-!
# Rules for placeholders

For each placeholder that has rules of its own: what its value must match, and the value it takes
where a path leaves it out.
-/

namespace PathRoute

structure Placeholder where
  /-- A regular expression for the value. -/
  requirement : String := "\\w+"
  /-- The value where none was captured. With one, the placeholder may match nothing. -/
  default : Option String := none
  deriving DecidableEq, Repr

abbrev Placeholders := Std.ExtTreeMap String Placeholder

namespace Placeholders

/-- The rules for a name, set or not. -/
def rules (ps : Placeholders) (name : String) : Placeholder := ps[name]?.getD {}

@[simp] theorem rules_empty (name : String) : (∅ : Placeholders).rules name = {} := rfl

/-- Set a requirement and keep the default. -/
def setRequirement (ps : Placeholders) (name requirement : String) : Placeholders :=
  ps.insert name { ps.rules name with requirement }

/-- Set a default and keep the requirement. -/
def setDefault (ps : Placeholders) (name value : String) : Placeholders :=
  ps.insert name { ps.rules name with default := some value }

@[simp] theorem rules_setRequirement (ps : Placeholders) (name requirement other : String) :
    (ps.setRequirement name requirement).rules other =
      if name = other then { ps.rules name with requirement } else ps.rules other := by
  simp only [rules, setRequirement, Std.ExtTreeMap.getElem?_insert, Std.compare_eq_iff_eq]
  split <;> simp_all

@[simp] theorem rules_setDefault (ps : Placeholders) (name value other : String) :
    (ps.setDefault name value).rules other =
      if name = other then { ps.rules name with default := some value } else ps.rules other := by
  simp only [rules, setDefault, Std.ExtTreeMap.getElem?_insert, Std.compare_eq_iff_eq]
  split <;> simp_all

end Placeholders

end PathRoute
