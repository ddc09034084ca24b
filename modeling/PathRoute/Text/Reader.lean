/-!
# Readers

A reader takes characters off the front of a text. It fails, or gives a value and the rest of the
text, which is never longer than the text was: that is why a reader may be repeated for as long
as the text lasts.
-/

namespace PathRoute

/-! ## Results -/

section

variable {ε ε' α : Type} {x : Except ε α} {a : α}

theorem exists_of_isOk (h : x.isOk = true) : ∃ a, x = .ok a := by
  cases x with
  | error e => cases h
  | ok a => exact ⟨a, rfl⟩

theorem mapError_ok {f : ε → ε'} : (Except.ok a).mapError f = .ok a := rfl

theorem mapError_eq_ok_iff {f : ε → ε'} : x.mapError f = .ok a ↔ x = .ok a := by
  cases x with
  | error e => exact ⟨nofun, nofun⟩
  | ok b => rw [mapError_ok, Except.ok.injEq, Except.ok.injEq]

end

/-! ## Readers -/

/-- A reader of `α` that fails with an `ε`. -/
structure Reader (ε α : Type) where
  read : (cs : List Char) → Except ε (α × { r : List Char // r.length ≤ cs.length })

namespace Reader

variable {ε α β σ : Type}

/-- The value and the rest of the text. -/
def run (p : Reader ε α) (cs : List Char) : Except ε (α × List Char) :=
  match p.read cs with
  | .error e => .error e
  | .ok (a, r) => .ok (a, r.1)

protected def pure (a : α) : Reader ε α := ⟨fun cs => .ok (a, ⟨cs, Nat.le_refl _⟩)⟩

protected def bind (p : Reader ε α) (f : α → Reader ε β) : Reader ε β := ⟨fun cs =>
  match p.read cs with
  | .error e => .error e
  | .ok (a, r) =>
    match (f a).read r.1 with
    | .error e => .error e
    | .ok (b, s) => .ok (b, ⟨s.1, Nat.le_trans s.2 r.2⟩)⟩

instance : Monad (Reader ε) where
  pure := Reader.pure
  bind := Reader.bind

/-- Fail, wherever the text stands. -/
def fail (e : ε) : Reader ε α := ⟨fun _ => .error e⟩

instance : MonadExceptOf ε (Reader ε) where
  throw := fail
  tryCatch p h := ⟨fun cs =>
    match p.read cs with
    | .error e => (h e).read cs
    | .ok x => .ok x⟩

/-- The whole text ahead, with nothing taken. -/
def ahead : Reader ε (List Char) := ⟨fun cs => .ok (cs, ⟨cs, Nat.le_refl _⟩)⟩

/-- The next character, with nothing taken. -/
def peek : Reader ε (Option Char) := ⟨fun cs => .ok (cs.head?, ⟨cs, Nat.le_refl _⟩)⟩

/-- Take the next character; at the end fail. -/
def next (e : ε) : Reader ε Char := ⟨fun
  | [] => .error e
  | c :: cs => .ok (c, ⟨cs, Nat.le_succ _⟩)⟩

/-- Drop a number of characters. -/
def skip (n : Nat) : Reader ε Unit := ⟨fun cs => .ok ((), ⟨cs.drop n, by simp⟩)⟩

/-- Drop the characters in front for as long as a test holds. -/
def skipWhile (p : Char → Bool) : Reader ε Unit :=
  ⟨fun cs => .ok ((), ⟨cs.dropWhile p, (List.dropWhile_suffix p).length_le⟩)⟩

/-- Take the characters in front for as long as a test holds. -/
def takeWhile (p : Char → Bool) : Reader ε (List Char) :=
  ⟨fun cs => .ok (cs.takeWhile p, ⟨cs.dropWhile p, (List.dropWhile_suffix p).length_le⟩)⟩

/-- Take a text if it stands in front, and tell whether it does. -/
def skipText (text : String) : Reader ε Bool := ⟨fun cs =>
  if text.toList.isPrefixOf cs then .ok (true, ⟨cs.drop text.length, by simp⟩)
  else .ok (false, ⟨cs, Nat.le_refl _⟩)⟩

/-- Take the next character and go on from it, for as long as a test of the state and of the
character ahead holds. -/
def repeatWhile (p : σ → Char → Bool) (body : σ → Char → Reader ε σ) (s : σ) : Reader ε σ :=
  ⟨fun cs => go s cs⟩
where
  go (s : σ) : (cs : List Char) → Except ε (σ × { r : List Char // r.length ≤ cs.length })
    | [] => .ok (s, ⟨[], Nat.le_refl _⟩)
    | c :: cs =>
      if p s c then
        match (body s c).read cs with
        | .error e => .error e
        | .ok (s', r) =>
          match go s' r.1 with
          | .error e => .error e
          | .ok (s'', t) => .ok (s'', ⟨t.1, Nat.le_trans t.2 (Nat.le_succ_of_le r.2)⟩)
      else .ok (s, ⟨c :: cs, Nat.le_refl _⟩)
  termination_by cs => cs.length
  decreasing_by exact Nat.lt_succ_of_le r.2

/-- Read a whole text. What is left at the end is given beside the value. -/
def parse (p : Reader ε α) (text : String) : Except ε (α × List Char) := p.run text.toList

end Reader

end PathRoute
