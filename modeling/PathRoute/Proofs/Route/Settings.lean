import PathRoute.Proofs.Overwriting
import PathRoute.Route.Draft

/-!
# The last setting counts

What a route is told of one thing by several settings is what the last of them says, whatever
settings for other things stand between.
-/

namespace PathRoute.Draft

variable {α : Type} {f : Draft → α} {g : Setting → Option α}

/-- A part of the draft is what a setting says of it, and stays if the setting says nothing. -/
def SetBy (f : Draft → α) (g : Setting → Option α) : Prop :=
  ∀ d s, f (d.apply s) = (g s).getD (f d)

theorem SetBy.foldl (h : SetBy f g) (ss : List Setting) (d : Draft) :
    f (ss.foldl apply d) = ((ss.filterMap g).getLast?).getD (f d) :=
  foldl_eq_getLast?_getD (fun d s _ => h d s) d

/-- The last setting for a part of the draft counts, and without one it is as at the beginning. -/
theorem SetBy.ofSettings (h : SetBy f g) (ss : List Setting) :
    f (ofSettings ss) = ((ss.filterMap g).getLast?).getD (f {}) := h.foldl ss {}

end PathRoute.Draft

namespace PathRoute.Setting

def handler? : Setting → Option (Option String)
  | .handler name => some (some name)
  | _ => none

def pinned? : Setting → Option (Option String)
  | .pinned name => some (some name)
  | _ => none

def enabled? : Setting → Option Bool
  | .enabled value => some value
  | _ => none

end PathRoute.Setting

namespace PathRoute.Draft

theorem handler_setBy : SetBy handler Setting.handler? := by
  intro d s
  cases s <;> rfl

theorem pinned_setBy : SetBy pinned Setting.pinned? := by
  intro d s
  cases s <;> rfl

theorem enabled_setBy : SetBy enabled Setting.enabled? := by
  intro d s
  cases s <;> rfl

end PathRoute.Draft
