import PathRoute.Text.Reader

/-!
# Running readers

What the readers do to the text ahead, one equation for each.
-/

namespace PathRoute

/-- What a computation gives can be tested. -/
instance decidableExistsOk {ε α : Type} (x : Except ε α) (p : α → Prop) [DecidablePred p] :
    Decidable (∃ a, x = .ok a ∧ p a) :=
  match x with
  | .error _ => isFalse fun ⟨_, h, _⟩ => nomatch h
  | .ok a => decidable_of_iff (p a)
      ⟨fun h => ⟨a, rfl, h⟩, fun ⟨_, h, hp⟩ => Except.ok.inj h ▸ hp⟩

namespace Reader

variable {ε α β σ : Type}

@[simp] theorem run_pure (a : α) (cs : List Char) : (pure a : Reader ε α).run cs = .ok (a, cs) :=
  rfl

@[simp] theorem run_bind (p : Reader ε α) (f : α → Reader ε β) (cs : List Char) :
    (p >>= f).run cs =
      match p.run cs with
      | .error e => .error e
      | .ok (a, rest) => (f a).run rest := by
  change (Reader.bind p f).run cs = _
  simp only [run, Reader.bind]
  cases hp : p.read cs with
  | error e => rfl
  | ok r =>
    obtain ⟨a, rest⟩ := r
    simp only
    cases hf : (f a).read rest.1 with
    | error e => rfl
    | ok s => rfl

@[simp] theorem run_ahead (cs : List Char) : (ahead : Reader ε _).run cs = .ok (cs, cs) := rfl

/-- A text that does not stand in front is left where it is. -/
theorem run_skipText_of_not_isPrefix {text : String} {cs : List Char} (h : ¬ text.toList <+: cs) :
    (skipText text : Reader ε _).run cs = .ok (false, cs) := by
  have h : text.toList.isPrefixOf cs = false :=
    Bool.eq_false_iff.mpr fun hp => h (List.isPrefixOf_iff_prefix.mp hp)
  simp only [run, skipText, h, Bool.false_eq_true, if_false]

/-- A loop whose test holds takes a character and goes on. -/
theorem run_repeatWhile_of {p : σ → Char → Bool} {body : σ → Char → Reader ε σ} {s : σ} {c : Char}
    {cs : List Char} (h : p s c = true) :
    (repeatWhile p body s).run (c :: cs) = (body s c >>= repeatWhile p body).run cs := by
  refine Eq.trans ?_ (run_bind ..).symm
  simp only [run, repeatWhile, repeatWhile.go, h, if_true]
  cases hs : (body s c).read cs with
  | error e => rfl
  | ok r =>
    obtain ⟨s', rest⟩ := r
    simp only
    cases hg : repeatWhile.go p body s' rest.1 with
    | error e => rfl
    | ok r => rfl

theorem run_repeatWhile_nil (p : σ → Char → Bool) (body : σ → Char → Reader ε σ) (s : σ) :
    (repeatWhile p body s).run [] = .ok (s, []) := by
  simp only [run, repeatWhile, repeatWhile.go]

end Reader

end PathRoute
