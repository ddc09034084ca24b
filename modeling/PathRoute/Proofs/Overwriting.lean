/-!
# The last write counts

A state is changed by one item after the other. If each item either says what is seen of the state
afterwards or leaves that as it was, what is seen in the end is what the last item said that said
anything.
-/

namespace PathRoute

variable {σ ι α : Type} {step : σ → ι → σ}

theorem foldl_eq_getLast?_or {f : σ → Option α} {g : ι → Option α} {xs : List ι}
    (h : ∀ s, ∀ x ∈ xs, f (step s x) = (g x).or (f s)) (s : σ) :
    f (xs.foldl step s) = ((xs.filterMap g).getLast?).or (f s) := by
  induction xs generalizing s with
  | nil => rfl
  | cons x xs ih =>
    have hrest : ∀ s, ∀ y ∈ xs, f (step s y) = (g y).or (f s) :=
      fun s y hy => h s y (List.mem_cons_of_mem _ hy)
    rw [List.foldl_cons, ih hrest, h s x List.mem_cons_self]
    cases hx : g x with
    | none => rw [List.filterMap_cons_none hx, Option.none_or]
    | some a => simp [List.filterMap_cons_some hx, List.getLast?_cons]

/-- The same where there is always something to see. -/
theorem foldl_eq_getLast?_getD {f : σ → α} {g : ι → Option α} {xs : List ι}
    (h : ∀ s, ∀ x ∈ xs, f (step s x) = (g x).getD (f s)) (s : σ) :
    f (xs.foldl step s) = ((xs.filterMap g).getLast?).getD (f s) := by
  have hsome : ∀ s, ∀ x ∈ xs, some (f (step s x)) = (g x).or (some (f s)) := by
    intro s x hx
    rw [h s x hx, Option.or_some]
  have hlast := foldl_eq_getLast?_or (f := fun s => some (f s)) hsome s
  rwa [Option.or_some, Option.some_inj] at hlast

end PathRoute
