import PathRoute.Proofs.Text.Reader

/-!
# What readers look at

A reader is local when it depends on no more of a text than what it takes and a little of what
follows. How much that is, is told by a relation between what follows in one text and in another
that the reader cannot tell apart. Beside it stand the characters that a reader takes, and what
becomes of a reader at the end of a text when the text goes on.
-/

namespace PathRoute.Reader

variable {ε α β σ : Type} {ρ : List Char → List Char → Prop}

/-! ## Runs -/

/-- Readers that run alike are the same. -/
theorem ext_run {p q : Reader ε α} (h : ∀ cs, p.run cs = q.run cs) : p = q := by
  obtain ⟨p⟩ := p
  obtain ⟨q⟩ := q
  congr
  funext cs
  have h := h cs
  simp only [run] at h
  cases hp : p cs with
  | error e =>
    cases hq : q cs with
    | error e' =>
      rw [hp, hq] at h
      cases h
      rfl
    | ok s =>
      rw [hp, hq] at h
      cases h
  | ok r =>
    cases hq : q cs with
    | error e =>
      rw [hp, hq] at h
      cases h
    | ok s =>
      obtain ⟨a, rest, hrest⟩ := r
      obtain ⟨b, rest', hrest'⟩ := s
      rw [hp, hq] at h
      cases h
      rfl

theorem lawfulMonad : LawfulMonad (Reader ε) := LawfulMonad.mk' (Reader ε)
  (fun p => ext_run fun cs => by
    change (p >>= fun a => pure (id a)).run cs = _
    rw [run_bind]
    cases p.run cs <;> rfl)
  (fun a f => ext_run fun cs => by rw [run_bind, run_pure])
  (fun p f g => ext_run fun cs => by
    simp only [run_bind]
    cases p.run cs <;> rfl)

@[simp] theorem run_peek (cs : List Char) : (peek : Reader ε _).run cs = .ok (cs.head?, cs) := rfl

@[simp] theorem run_next_cons (e : ε) (c : Char) (cs : List Char) :
    (next e).run (c :: cs) = .ok (c, cs) := rfl

@[simp] theorem run_skip (n : Nat) (cs : List Char) :
    (skip n : Reader ε _).run cs = .ok ((), cs.drop n) := rfl

@[simp] theorem run_skipWhile (p : Char → Bool) (cs : List Char) :
    (skipWhile p : Reader ε _).run cs = .ok ((), cs.dropWhile p) := rfl

theorem run_skipText_cons {text : String} {x : Char} (hx : text.toList = [x]) (cs : List Char) :
    (skipText text : Reader ε _).run (x :: cs) = .ok (true, cs) := by
  have hlen : text.length = 1 := by rw [← String.length_toList, hx]; rfl
  simp [run, skipText, hx, hlen]

theorem run_skipText_of_ne {text : String} {x : Char} (hx : text.toList = [x]) {cs : List Char}
    (h : ∀ r, cs ≠ x :: r) : (skipText text : Reader ε _).run cs = .ok (false, cs) := by
  refine run_skipText_of_not_isPrefix ?_
  rintro ⟨r, rfl⟩
  exact h r (by rw [hx]; rfl)

/-- A single character is taken where it stands. -/
theorem skipText_cases {text : String} {x : Char} (hx : text.toList = [x]) {found : Bool}
    {cs rest : List Char} (h : (skipText text : Reader ε _).run cs = .ok (found, rest)) :
    (found = true ∧ cs = x :: rest) ∨ (found = false ∧ cs = rest ∧ ∀ r, cs ≠ x :: r) := by
  by_cases hcs : ∃ r, cs = x :: r
  · obtain ⟨r, rfl⟩ := hcs
    rw [run_skipText_cons hx] at h
    cases h
    exact .inl ⟨rfl, rfl⟩
  · have hnot : ∀ r, cs ≠ x :: r := fun r hr => hcs ⟨r, hr⟩
    rw [run_skipText_of_ne hx hnot] at h
    cases h
    exact .inr ⟨rfl, rfl, hnot⟩

/-- A loop whose test fails stops where it is. -/
theorem run_repeatWhile_of_not {p : σ → Char → Bool} {body : σ → Char → Reader ε σ} {s : σ}
    {c : Char} {cs : List Char} (h : ¬ p s c = true) :
    (repeatWhile p body s).run (c :: cs) = .ok (s, c :: cs) := by
  simp only [run, repeatWhile, repeatWhile.go, h, Bool.false_eq_true, if_false]

theorem exists_of_run_bind {p : Reader ε α} {k : α → Reader ε β} {b : β} {cs rest : List Char}
    (h : (p >>= k).run cs = .ok (b, rest)) :
    ∃ a mid, p.run cs = .ok (a, mid) ∧ (k a).run mid = .ok (b, rest) := by
  rw [run_bind] at h
  cases hp : p.run cs with
  | error e => simp [hp] at h
  | ok r => exact ⟨r.1, r.2, rfl, by simpa [hp] using h⟩

theorem fail_bind (e : ε) (k : α → Reader ε β) : fail e >>= k = fail e := ext_run fun _ => rfl

theorem length_le_of_run {p : Reader ε α} {a : α} {cs rest : List Char}
    (h : p.run cs = .ok (a, rest)) : rest.length ≤ cs.length := by
  unfold run at h
  split at h
  · cases h
  · rename_i r _
    cases h
    exact r.2

/-- What a loop keeps, step by step, it keeps to its end. -/
theorem run_repeatWhile_induction {p : σ → Char → Bool} {body : σ → Char → Reader ε σ}
    {motive : σ → List Char → σ → List Char → Prop}
    (stop : ∀ s cs, (∀ c, cs.head? = some c → ¬ p s c = true) → motive s cs s cs)
    (step : ∀ s c cs s' mid t rest, p s c = true → (body s c).run cs = .ok (s', mid) →
      (repeatWhile p body s').run mid = .ok (t, rest) → motive s' mid t rest →
      motive s (c :: cs) t rest)
    {s t : σ} {cs rest : List Char} (h : (repeatWhile p body s).run cs = .ok (t, rest)) :
    motive s cs t rest := by
  induction hn : cs.length using Nat.strongRecOn generalizing s cs with
  | ind n ih =>
    cases cs with
    | nil =>
      rw [run_repeatWhile_nil] at h
      cases h
      exact stop _ [] (by simp)
    | cons c cs =>
      by_cases hc : p s c = true
      · rw [run_repeatWhile_of hc] at h
        obtain ⟨s', mid, hrun, hloop⟩ := exists_of_run_bind h
        have hlen : mid.length < n := by
          have := length_le_of_run hrun
          rw [← hn, List.length_cons]
          omega
        exact step s c cs s' mid t rest hc hrun hloop (ih mid.length hlen hloop rfl)
      · rw [run_repeatWhile_of_not hc] at h
        cases h
        exact stop _ (c :: cs) (by simpa using hc)

/-- A loop goes on as long as its test holds. -/
theorem not_of_run_repeatWhile {p : σ → Char → Bool} {body : σ → Char → Reader ε σ} {s t : σ}
    {cs rest : List Char} (h : (repeatWhile p body s).run cs = .ok (t, rest)) :
    ∀ c, rest.head? = some c → ¬ p t c = true :=
  run_repeatWhile_induction
    (motive := fun _ _ t rest => ∀ c, rest.head? = some c → ¬ p t c = true)
    (fun _ _ hstop => hstop) (fun _ _ _ _ _ _ _ _ _ _ ih => ih) h

/-- The reader takes nothing and looks at nothing. -/
def Idle (p : Reader ε α) : Prop := ∃ r : Except ε α, ∀ cs, p.run cs = r.map (·, cs)

theorem idle_pure (a : α) : Idle (pure a : Reader ε α) := ⟨.ok a, fun _ => rfl⟩

theorem idle_fail (e : ε) : Idle (fail e : Reader ε α) := ⟨.error e, fun _ => rfl⟩

theorem idle_fail_bind (e : ε) (k : α → Reader ε β) : Idle (fail e >>= k) := by
  rw [fail_bind]
  exact idle_fail e

theorem Idle.ite {p q : Reader ε α} {c : Prop} [Decidable c] (hp : Idle p) (hq : Idle q) :
    Idle (if c then p else q) := by
  split
  · exact hp
  · exact hq

theorem Idle.bind {p : Reader ε α} {k : α → Reader ε β} (hp : Idle p) (hk : ∀ a, Idle (k a)) :
    Idle (p >>= k) := by
  obtain ⟨r, hr⟩ := hp
  cases r with
  | error e => exact ⟨.error e, fun cs => by rw [run_bind, hr]; rfl⟩
  | ok a =>
    obtain ⟨s, hs⟩ := hk a
    exact ⟨s, fun cs => by rw [run_bind, hr]; exact hs cs⟩

theorem Idle.run {p : Reader ε α} {a : α} {cs rest : List Char} (hp : Idle p)
    (h : p.run cs = .ok (a, rest)) : rest = cs ∧ ∀ ys, p.run ys = .ok (a, ys) := by
  obtain ⟨r, hr⟩ := hp
  rw [hr] at h
  cases r with
  | error e => cases h
  | ok b =>
    cases h
    exact ⟨rfl, hr⟩

/-- A loop that takes its characters one by one stops where a test on them fails. -/
theorem rest_eq_of_run_repeatWhile {p : Char → Bool} {body : σ → Char → Reader ε σ}
    (hbody : ∀ s c, Idle (body s c)) {s t : σ} {cs rest : List Char}
    (h : (repeatWhile (fun _ c => p c) body s).run cs = .ok (t, rest)) : rest = cs.dropWhile p := by
  refine run_repeatWhile_induction (motive := fun _ cs _ rest => rest = cs.dropWhile p)
    (fun _ cs hstop => ?_) (fun s c cs s' mid t rest hc hrun _ ih => ?_) h
  · cases cs with
    | nil => rfl
    | cons c cs => rw [List.dropWhile_cons_of_neg (hstop c rfl)]
  · obtain ⟨rfl, -⟩ := (hbody s c).run hrun
    rw [ih, List.dropWhile_cons_of_pos hc]

/-! ## Local readers -/

/-- A relation that is not changed by text in front, and that keeps the first character. -/
structure Lookahead (ρ : List Char → List Char → Prop) : Prop where
  head_eq {r ys : List Char} : ρ r ys → r.head? = ys.head?
  append {r ys : List Char} (u : List Char) : ρ r ys → ρ (u ++ r) (u ++ ys)

/-- Where the reader gives the value, it does so before everything that is related to the rest. -/
def LocalAt (ρ : List Char → List Char → Prop) (p : Reader ε α) (a : α) : Prop :=
  ∀ ⦃cs rest⦄, p.run cs = .ok (a, rest) →
    ∃ u, cs = u ++ rest ∧ ∀ ⦃ys⦄, ρ rest ys → p.run (u ++ ys) = .ok (a, ys)

/-- The reader looks at no more of what follows than the relation keeps. -/
def Local (ρ : List Char → List Char → Prop) (p : Reader ε α) : Prop := ∀ a, LocalAt ρ p a

/-- The same for one text. -/
def LocalFrom (ρ : List Char → List Char → Prop) (p : Reader ε α) (cs : List Char) : Prop :=
  ∀ ⦃a rest⦄, p.run cs = .ok (a, rest) →
    ∃ u, cs = u ++ rest ∧ ∀ ⦃ys⦄, ρ rest ys → p.run (u ++ ys) = .ok (a, ys)

theorem Local.from {p : Reader ε α} (hp : Local ρ p) (cs : List Char) : LocalFrom ρ p cs :=
  fun a _ h => hp a h

theorem Idle.isLocal {p : Reader ε α} (hp : Idle p) : Local ρ p := by
  intro a cs rest h
  obtain ⟨rfl, hall⟩ := hp.run h
  exact ⟨[], rfl, fun ys _ => hall ys⟩

theorem localFrom_skip_one {p : Reader ε α} (hp : Local ρ p) (c : Char) (cs : List Char) :
    LocalFrom ρ (skip 1 >>= fun _ => p) (c :: cs) := by
  intro a rest h
  rw [run_bind, run_skip] at h
  obtain ⟨u, rfl, hu⟩ := hp a h
  exact ⟨c :: u, rfl, fun ys hy => by rw [run_bind, run_skip]; exact hu hy⟩

theorem local_pure (a : α) : Local ρ (pure a : Reader ε α) := (idle_pure a).isLocal

theorem local_next (e : ε) : Local ρ (next e) := by
  intro a cs rest h
  cases cs with
  | nil => cases h
  | cons c cs =>
    cases h
    exact ⟨[a], rfl, fun _ _ => rfl⟩

theorem LocalAt.mono {ρ' : List Char → List Char → Prop} {p : Reader ε α} {a : α}
    (hp : LocalAt ρ p a) (h : ∀ r ys, ρ' r ys → ρ r ys) : LocalAt ρ' p a := by
  intro cs rest hrun
  obtain ⟨u, rfl, hu⟩ := hp hrun
  exact ⟨u, rfl, fun ys hy => hu (h _ _ hy)⟩

theorem Local.mono {ρ' : List Char → List Char → Prop} {p : Reader ε α} (hp : Local ρ p)
    (h : ∀ r ys, ρ' r ys → ρ r ys) : Local ρ' p := fun a => (hp a).mono h

/-- What follows a character decides, whatever the relation is. -/
theorem local_next_bind {e : ε} {k : Char → Reader ε β} (hk : ∀ c, Local ρ (k c)) :
    Local ρ (next e >>= k) := by
  intro b cs rest h
  cases cs with
  | nil => cases h
  | cons c cs =>
    rw [run_bind, run_next_cons] at h
    obtain ⟨u, rfl, hu⟩ := hk c b h
    exact ⟨c :: u, rfl, fun ys hy => by
      rw [List.cons_append, run_bind, run_next_cons]
      exact hu hy⟩

/-- What is done with a value that has been read does not matter. -/
theorem Local.bind_idle {p : Reader ε α} {k : α → Reader ε β} (hp : Local ρ p)
    (hk : ∀ a, Idle (k a)) : Local ρ (p >>= k) := by
  intro b cs rest h
  obtain ⟨a, mid, hpa, hkb⟩ := exists_of_run_bind h
  obtain ⟨rfl, hall⟩ := (hk a).run hkb
  obtain ⟨u, rfl, hu⟩ := hp a hpa
  exact ⟨u, rfl, fun ys hy => by rw [run_bind, hu hy]; exact hall ys⟩

section Lookahead

variable (hρ : Lookahead ρ)

include hρ

/-- The value of the first reader matters only where the second one goes on to the value asked
for. -/
theorem LocalAt.bind {p : Reader ε α} {k : α → Reader ε β} {b : β}
    (hp : ∀ a, (∃ cs rest, (k a).run cs = .ok (b, rest)) → LocalAt ρ p a)
    (hk : ∀ a, LocalAt ρ (k a) b) : LocalAt ρ (p >>= k) b := by
  intro cs rest h
  obtain ⟨a, mid, hpa, hkb⟩ := exists_of_run_bind h
  obtain ⟨v, rfl, hv⟩ := hk a hkb
  obtain ⟨u, rfl, hu⟩ := hp a ⟨_, _, hkb⟩ hpa
  refine ⟨u ++ v, (List.append_assoc ..).symm, fun ys hy => ?_⟩
  rw [List.append_assoc, run_bind, hu (hρ.append v hy)]
  exact hv hy

theorem Local.bind {p : Reader ε α} {k : α → Reader ε β} (hp : Local ρ p)
    (hk : ∀ a, Local ρ (k a)) : Local ρ (p >>= k) :=
  fun b => LocalAt.bind hρ (fun a _ => hp a) fun a => hk a b

theorem local_skipWhile (p : Char → Bool) : Local ρ (skipWhile p : Reader ε _) := by
  intro a cs rest h
  cases h
  refine ⟨cs.takeWhile p, List.takeWhile_append_dropWhile.symm, fun ys hy => ?_⟩
  have htake : ∀ c ∈ cs.takeWhile p, p c = true := List.all_eq_true.mp List.all_takeWhile
  rw [run_skipWhile, List.dropWhile_append_of_pos htake]
  have hhead := hρ.head_eq hy
  cases ys with
  | nil => rfl
  | cons y ys =>
    have hy : ¬ p y = true := by
      have := List.head?_dropWhile_not p cs
      rw [hhead] at this
      simpa using this
    rw [List.dropWhile_cons_of_neg hy]

/-- A single character is looked for. -/
theorem local_skipText {text : String} {x : Char} (hx : text.toList = [x]) :
    Local ρ (skipText text : Reader ε _) := by
  intro a cs rest h
  rcases skipText_cases hx h with ⟨rfl, rfl⟩ | ⟨rfl, rfl, hnot⟩
  · exact ⟨[x], rfl, fun ys _ => run_skipText_cons hx ys⟩
  · refine ⟨[], rfl, fun ys hy => run_skipText_of_ne hx ?_⟩
    rintro r rfl
    have hhead := hρ.head_eq hy
    cases cs with
    | nil => cases hhead
    | cons c cs =>
      cases hhead
      exact hnot cs rfl

theorem local_repeatWhile {p : σ → Char → Bool} {body : σ → Char → Reader ε σ}
    (hbody : ∀ s c, Local ρ (body s c)) (s : σ) : Local ρ (repeatWhile p body s) := by
  intro t cs rest h
  refine run_repeatWhile_induction
    (motive := fun s cs t rest => ∃ u, cs = u ++ rest ∧
      ∀ ⦃ys⦄, ρ rest ys → (repeatWhile p body s).run (u ++ ys) = .ok (t, ys))
    (fun s cs hstop => ?_) (fun s c cs s' mid t rest hc hrun _ ih => ?_) h
  · refine ⟨[], rfl, fun ys hy => ?_⟩
    have hhead := hρ.head_eq hy
    cases ys with
    | nil => exact run_repeatWhile_nil ..
    | cons y ys => exact run_repeatWhile_of_not (hstop y hhead)
  · obtain ⟨v, rfl, hv⟩ := ih
    obtain ⟨u, rfl, hu⟩ := hbody s c s' hrun
    refine ⟨c :: (u ++ v), by simp, fun ys hy => ?_⟩
    rw [List.cons_append, run_repeatWhile_of hc, List.append_assoc, run_bind,
      hu (hρ.append v hy)]
    exact hv hy

/-- The text ahead is looked at, but only for what the relation keeps. -/
theorem local_ahead {k : List Char → Reader ε α} (hcongr : ∀ r ys, ρ r ys → k r = k ys)
    (hk : ∀ cs, LocalFrom ρ (k cs) cs) : Local ρ (ahead >>= k) := by
  intro a cs rest h
  rw [run_bind, run_ahead] at h
  obtain ⟨u, rfl, hu⟩ := hk cs h
  refine ⟨u, rfl, fun ys hy => ?_⟩
  rw [run_bind, run_ahead]
  dsimp only
  rw [← hcongr _ _ (hρ.append u hy)]
  exact hu hy

/-- One reader after a given character, and another before anything else. -/
theorem local_ifPeek {p q : Reader ε α} {x : Char} (hp : Local ρ p) (hq : Local ρ q) :
    Local ρ (peek >>= fun c => if c == some x then skip 1 >>= fun _ => p else q) := by
  intro a cs rest h
  rw [run_bind, run_peek] at h
  by_cases hx : cs.head? = some x
  · obtain ⟨r, rfl⟩ : ∃ r, cs = x :: r := by
      cases cs with
      | nil => cases hx
      | cons c cs => exact ⟨cs, by rw [Option.some.inj hx]⟩
    simp only [List.head?_cons, beq_self_eq_true, if_true, run_bind, run_skip, List.drop_one,
      List.tail_cons] at h
    obtain ⟨u, rfl, hu⟩ := hp a h
    refine ⟨x :: u, rfl, fun ys hy => ?_⟩
    simpa only [List.cons_append, run_bind, run_peek, List.head?_cons, beq_self_eq_true, if_true,
      run_skip, List.drop_one, List.tail_cons] using hu hy
  · have hne : ∀ {o : Option Char}, o = cs.head? → ¬ (o == some x) = true := by
      rintro _ rfl
      simpa using hx
    simp only [hne rfl] at h
    obtain ⟨u, rfl, hu⟩ := hq a h
    refine ⟨u, rfl, fun ys hy => ?_⟩
    have hhead : (u ++ ys).head? = (u ++ rest).head? := (hρ.head_eq (hρ.append u hy)).symm
    simp only [run_bind, run_peek, hne hhead]
    exact hu hy

end Lookahead

/-! ## Readers with an end of their own -/

/-- The first characters are the same, or there is none. -/
def SameHead (r ys : List Char) : Prop := r.head? = ys.head?

theorem lookahead_sameHead : Lookahead SameHead where
  head_eq h := h
  append u h := by
    cases u with
    | nil => exact h
    | cons c u => rfl

/-- The reader takes something and looks at nothing that follows. -/
def Sealed (p : Reader ε α) : Prop :=
  ∀ ⦃cs a rest⦄, p.run cs = .ok (a, rest) →
    ∃ u, u ≠ [] ∧ cs = u ++ rest ∧ ∀ ys, p.run (u ++ ys) = .ok (a, ys)

theorem sealed_fail (e : ε) : Sealed (fail e : Reader ε α) := by
  intro cs a rest h
  cases h

theorem sealed_next {e : ε} {k : Char → Reader ε β} (hk : ∀ c, Idle (k c) ∨ Sealed (k c)) :
    Sealed (next e >>= k) := by
  intro cs b rest h
  cases cs with
  | nil => cases h
  | cons c cs =>
    rw [run_bind, run_next_cons] at h
    rcases hk c with hk | hk
    · obtain ⟨rfl, hall⟩ := hk.run h
      refine ⟨[c], by simp, rfl, fun ys => ?_⟩
      rw [List.singleton_append, run_bind, run_next_cons]
      exact hall ys
    · obtain ⟨u, -, rfl, hu⟩ := hk h
      refine ⟨c :: u, by simp, rfl, fun ys => ?_⟩
      rw [List.cons_append, run_bind, run_next_cons]
      exact hu ys

/-- The given character ends what is read, or something else does. -/
theorem sealed_ifSkipText {text : String} {x : Char} (hx : text.toList = [x]) {p q : Reader ε α}
    (hp : Idle p) (hq : Sealed q) :
    Sealed (skipText text >>= fun b => if b then p else q) := by
  intro cs a rest h
  obtain ⟨found, mid, hfound, hend⟩ := exists_of_run_bind h
  rcases skipText_cases hx hfound with ⟨rfl, rfl⟩ | ⟨rfl, rfl, hnot⟩
  · obtain ⟨rfl, hall⟩ := hp.run hend
    refine ⟨[x], by simp, rfl, fun ys => ?_⟩
    rw [List.singleton_append, run_bind, run_skipText_cons hx]
    exact hall ys
  · obtain ⟨u, hne, rfl, hu⟩ := hq hend
    obtain ⟨c, u, rfl⟩ := List.exists_cons_of_ne_nil hne
    refine ⟨c :: u, hne, rfl, fun ys => ?_⟩
    have hother : ∀ r, c :: u ++ ys ≠ x :: r := by
      rintro r hr
      cases hr
      exact hnot _ rfl
    rw [run_bind, run_skipText_of_ne hx hother]
    exact hu ys

namespace Sealed

variable {p : Reader ε α} {k : α → Reader ε β}

theorem after (hk : ∀ a, Sealed (k a)) (hp : Local SameHead p) : Sealed (p >>= k) := by
  intro cs b rest h
  obtain ⟨a, mid, hpa, hkb⟩ := exists_of_run_bind h
  obtain ⟨v, hne, rfl, hv⟩ := hk a hkb
  obtain ⟨u, rfl, hu⟩ := hp a hpa
  refine ⟨u ++ v, by simp [hne], (List.append_assoc ..).symm, fun ys => ?_⟩
  have hhead : SameHead (v ++ rest) (v ++ ys) := by
    cases v with
    | nil => exact absurd rfl hne
    | cons c v => rfl
  rw [List.append_assoc, run_bind, hu hhead]
  exact hv ys

theorem isLocal (hp : Sealed p) : Local ρ p := by
  intro a cs rest h
  obtain ⟨u, -, hcs, hu⟩ := hp h
  exact ⟨u, hcs, fun ys _ => hu ys⟩

end Sealed

/-! ## Longer texts -/

/-- The rest of a text that goes on, where something is left of it. -/
def Extension (r ys : List Char) : Prop := r ≠ [] ∧ ∃ x, ys = r ++ x

theorem lookahead_extension : Lookahead Extension where
  head_eq := by
    rintro r _ ⟨hr, x, rfl⟩
    cases r with
    | nil => exact absurd rfl hr
    | cons c r => rfl
  append := by
    rintro r _ u ⟨hr, x, rfl⟩
    exact ⟨by simp [hr], x, (List.append_assoc ..).symm⟩

/-- A reader that has taken a whole text stops there as well before the given character, or else
it takes that character too and nothing comes of it. -/
def Stops (x : Char) (p : Reader ε α) (cs : List Char) (a : α) : Prop :=
  (∀ ys, p.run (cs ++ x :: ys) = .ok (a, x :: ys)) ∨ p.run (cs ++ [x]) = .ok (a, [])

def StopsAt (x : Char) (p : Reader ε α) : Prop :=
  ∀ ⦃cs a⦄, p.run cs = .ok (a, []) → Stops x p cs a

variable {x : Char}

theorem Idle.stopsAt {p : Reader ε α} (hp : Idle p) : StopsAt x p := by
  intro cs a h
  obtain ⟨rfl, hall⟩ := hp.run h
  exact .inl fun ys => hall (x :: ys)

theorem stopsAt_pure (a : α) : StopsAt x (pure a : Reader ε α) := (idle_pure a).stopsAt

theorem stopsAt_next (e : ε) : StopsAt x (next e) := by
  intro cs a h
  cases cs with
  | nil => cases h
  | cons c cs =>
    cases h
    exact .inl fun _ => rfl

theorem Sealed.stopsAt {p : Reader ε α} (hp : Sealed p) : StopsAt x p := by
  intro cs a h
  obtain ⟨u, -, rfl, hu⟩ := hp h
  rw [List.append_nil]
  exact .inl fun ys => hu (x :: ys)

theorem stopsAt_skipText {text : String} {y : Char} (hy : text.toList = [y]) (hxy : x ≠ y) :
    StopsAt x (skipText text : Reader ε _) := by
  intro cs a h
  left
  intro ys
  rcases skipText_cases hy h with ⟨rfl, rfl⟩ | ⟨rfl, rfl, -⟩
  · exact run_skipText_cons hy _
  · refine run_skipText_of_ne hy fun r hr => hxy ?_
    simpa using congrArg List.head? hr

theorem stopsAt_skipWhile (p : Char → Bool) : StopsAt x (skipWhile p : Reader ε _) := by
  intro cs a h
  have hdrop : cs.dropWhile p = [] := congrArg Prod.snd (Except.ok.inj h)
  by_cases hx : p x = true
  · right
    rw [run_skipWhile, List.dropWhile_append, hdrop]
    simp [hx]
  · left
    intro ys
    rw [run_skipWhile, List.dropWhile_append, hdrop]
    simp [hx]

theorem Stops.congr {p q : Reader ε α} {cs ds : List Char} {a : α} (hq : Stops x q ds a)
    (h : ∀ ys, p.run (cs ++ x :: ys) = q.run (ds ++ x :: ys)) : Stops x p cs a :=
  hq.imp (fun hq ys => (h ys).trans (hq ys)) fun hq => (h []).trans hq

theorem Stops.bind {p : Reader ε α} {k : α → Reader ε β} {cs mid : List Char} {a : α} {b : β}
    (hlocal : Local Extension p) (hpa : p.run cs = .ok (a, mid)) (hkb : (k a).run mid = .ok (b, []))
    (hp : mid = [] → Stops x p cs a) (hk : Stops x (k a) mid b) : Stops x (p >>= k) cs b := by
  by_cases hmid : mid = []
  · subst hmid
    rcases hp rfl with hpx | hpx
    · rcases hk with hkx | hkx
      · exact .inl fun ys => by rw [run_bind, hpx]; exact hkx ys
      · exact .inr (by rw [run_bind, hpx]; exact hkx)
    · exact .inr (by rw [run_bind, hpx]; exact hkb)
  · obtain ⟨u, rfl, hu⟩ := hlocal a hpa
    have hext (ys : List Char) : p.run (u ++ mid ++ ys) = .ok (a, mid ++ ys) := by
      rw [List.append_assoc]
      exact hu ⟨hmid, ys, rfl⟩
    rcases hk with hkx | hkx
    · exact .inl fun ys => by rw [run_bind, hext]; exact hkx ys
    · exact .inr (by rw [run_bind, hext]; exact hkx)

theorem StopsAt.bind {p : Reader ε α} {k : α → Reader ε β} (hlocal : Local Extension p)
    (hp : StopsAt x p) (hk : ∀ a, StopsAt x (k a)) : StopsAt x (p >>= k) := by
  intro cs b h
  obtain ⟨a, mid, hpa, hkb⟩ := exists_of_run_bind h
  refine .bind hlocal hpa hkb ?_ (hk a hkb)
  rintro rfl
  exact hp hpa

/-- A reader is not asked at the end of a text when a character has to follow. -/
theorem StopsAt.bind_next {p : Reader ε α} {e : ε} {k : α → Char → Reader ε β}
    (hlocal : Local Extension p) (hk : ∀ a c, StopsAt x (k a c)) :
    StopsAt x (p >>= fun a => next e >>= k a) := by
  intro cs b h
  obtain ⟨a, mid, hpa, hkb⟩ := exists_of_run_bind h
  refine .bind hlocal hpa hkb ?_ (StopsAt.bind (local_next e) (stopsAt_next e) (hk a) hkb)
  rintro rfl
  cases hkb

/-- The loop stops at the character, or it goes over it and stays as it is. -/
theorem stopsAt_repeatWhile {p : σ → Char → Bool} {body : σ → Char → Reader ε σ}
    (hlocal : ∀ s c, Local Extension (body s c)) (hbody : ∀ s c, StopsAt x (body s c))
    (hx : ∀ s, p s x = true → body s x = pure s) (s : σ) : StopsAt x (repeatWhile p body s) := by
  intro cs t h
  generalize hrest : [] = rest at h
  refine run_repeatWhile_induction
    (motive := fun s cs t rest => [] = rest → Stops x (repeatWhile p body s) cs t)
    (fun s cs _ hcs => ?_) (fun s c cs s' mid t rest hc hrun hloop ih hcs => ?_) h hrest
  · subst hcs
    by_cases hs : p s x = true
    · right
      rw [List.nil_append, run_repeatWhile_of hs, hx s hs, run_bind, run_pure]
      exact run_repeatWhile_nil ..
    · exact .inl fun ys => run_repeatWhile_of_not hs
  · subst hcs
    have hstops : Stops x (body s c >>= repeatWhile p body) cs t := by
      refine .bind (hlocal s c) hrun hloop ?_ (ih rfl)
      rintro rfl
      exact hbody s c hrun
    exact hstops.congr fun ys => run_repeatWhile_of hc

/-- At the end of a text only the second reader is left. -/
theorem stopsAt_ifPeek {p q : Reader ε α} {y : Char} (hxy : x ≠ y) (hp : StopsAt x p)
    (hq : StopsAt x q) :
    StopsAt x (peek >>= fun c => if c == some y then skip 1 >>= fun _ => p else q) := by
  intro cs a h
  cases cs with
  | nil =>
    have h : q.run [] = .ok (a, []) := by simpa using h
    refine (hq h).congr fun ys => ?_
    simp [hxy]
  | cons c cs =>
    by_cases hc : c = y
    · subst hc
      have h : p.run cs = .ok (a, []) := by simpa using h
      refine (hp h).congr fun ys => ?_
      simp
    · have h : q.run (c :: cs) = .ok (a, []) := by simpa [hc] using h
      refine (hq h).congr fun ys => ?_
      simp [hc]

/-! ## What is taken -/

/-- Every character that the reader takes to give the value has the property. -/
def TakesAt (P : Char → Prop) (p : Reader ε α) (a : α) : Prop :=
  ∀ ⦃cs rest⦄, p.run cs = .ok (a, rest) → ∃ u, cs = u ++ rest ∧ ∀ c ∈ u, P c

/-- Every character that the reader takes has the property. -/
def Takes (P : Char → Prop) (p : Reader ε α) : Prop := ∀ a, TakesAt P p a

variable {P : Char → Prop}

theorem Idle.takes {p : Reader ε α} (hp : Idle p) : Takes P p := by
  intro a cs rest h
  obtain ⟨rfl, -⟩ := hp.run h
  exact ⟨[], rfl, by simp⟩

theorem takes_pure (a : α) : Takes P (pure a : Reader ε α) := (idle_pure a).takes

theorem takes_skipText {text : String} {y : Char} (hy : text.toList = [y]) (hP : P y) :
    Takes P (skipText text : Reader ε _) := by
  intro a cs rest h
  rcases skipText_cases hy h with ⟨rfl, rfl⟩ | ⟨rfl, rfl, -⟩
  · exact ⟨[y], rfl, by simpa using hP⟩
  · exact ⟨[], rfl, by simp⟩

theorem takes_skipWhile {p : Char → Bool} (hp : ∀ c, p c = true → P c) :
    Takes P (skipWhile p : Reader ε _) := by
  intro a cs rest h
  cases h
  exact ⟨cs.takeWhile p, List.takeWhile_append_dropWhile.symm,
    fun c hc => hp c (List.all_eq_true.mp List.all_takeWhile c hc)⟩

theorem TakesAt.bind {p : Reader ε α} {k : α → Reader ε β} {b : β} (hp : Takes P p)
    (hk : ∀ a, TakesAt P (k a) b) : TakesAt P (p >>= k) b := by
  intro cs rest h
  obtain ⟨a, mid, hpa, hkb⟩ := exists_of_run_bind h
  obtain ⟨v, rfl, hv⟩ := hk a hkb
  obtain ⟨u, rfl, hu⟩ := hp a hpa
  exact ⟨u ++ v, (List.append_assoc ..).symm, List.forall_mem_append.mpr ⟨hu, hv⟩⟩

theorem Takes.bind {p : Reader ε α} {k : α → Reader ε β} (hp : Takes P p)
    (hk : ∀ a, Takes P (k a)) : Takes P (p >>= k) :=
  fun b => TakesAt.bind hp fun a => hk a b

/-- A character is taken that what follows checks. -/
theorem takes_next {e : ε} {k : Char → Reader ε β}
    (hk : ∀ c, P c ∧ Takes P (k c) ∨ ∀ cs b, (k c).run cs ≠ .ok b) : Takes P (next e >>= k) := by
  intro b cs rest h
  cases cs with
  | nil => cases h
  | cons c cs =>
    rw [run_bind, run_next_cons] at h
    rcases hk c with ⟨hc, hk⟩ | hk
    · obtain ⟨u, rfl, hu⟩ := hk b h
      exact ⟨c :: u, rfl, List.forall_mem_cons.mpr ⟨hc, hu⟩⟩
    · exact absurd h (hk cs _)

theorem takes_repeatWhile {p : σ → Char → Bool} {body : σ → Char → Reader ε σ}
    (hbody : ∀ s c, p s c = true → P c ∧ Takes P (body s c) ∨ ∀ cs b, (body s c).run cs ≠ .ok b)
    (s : σ) : Takes P (repeatWhile p body s) := by
  intro t cs rest h
  refine run_repeatWhile_induction (motive := fun _ cs _ rest => ∃ u, cs = u ++ rest ∧ ∀ c ∈ u, P c)
    (fun s cs _ => ⟨[], rfl, by simp⟩) (fun s c cs s' mid t rest hc hrun _ ih => ?_) h
  obtain ⟨v, rfl, hv⟩ := ih
  rcases hbody s c hc with ⟨hP, hb⟩ | hb
  · obtain ⟨u, rfl, hu⟩ := hb s' hrun
    exact ⟨c :: (u ++ v), by simp,
      List.forall_mem_cons.mpr ⟨hP, List.forall_mem_append.mpr ⟨hu, hv⟩⟩⟩
  · exact absurd hrun (hb cs _)

/-- A loop whose end is marked by a character. -/
theorem takes_repeatWhile_next {p : Char → Bool} {body : σ → Char → Reader ε σ} {e : ε}
    {k : σ → Char → Reader ε β}
    (hbody : ∀ s c, p c = true → P c ∧ Takes P (body s c) ∨ ∀ cs b, (body s c).run cs ≠ .ok b)
    (hstop : ∀ c, ¬ p c = true → P c) (hk : ∀ t c, Takes P (k t c)) (s : σ) :
    Takes P (repeatWhile (fun _ c => p c) body s >>= fun t => next e >>= k t) := by
  intro b cs rest h
  obtain ⟨t, mid, hloop, hrest⟩ := exists_of_run_bind h
  obtain ⟨u, rfl, hu⟩ := takes_repeatWhile (p := fun _ c => p c) hbody s t hloop
  cases mid with
  | nil => cases hrest
  | cons c mid =>
    rw [run_bind, run_next_cons] at hrest
    obtain ⟨v, rfl, hv⟩ := hk t c b hrest
    have hc := hstop c (not_of_run_repeatWhile hloop c rfl)
    exact ⟨u ++ c :: v, by simp, List.forall_mem_append.mpr ⟨hu, List.forall_mem_cons.mpr ⟨hc, hv⟩⟩⟩

theorem takes_ifPeek {p q : Reader ε α} {y : Char} (hy : P y) (hp : Takes P p) (hq : Takes P q) :
    Takes P (peek >>= fun c => if c == some y then skip 1 >>= fun _ => p else q) := by
  intro a cs rest h
  rw [run_bind, run_peek] at h
  simp only [beq_iff_eq] at h
  split at h <;> rename_i hx
  · obtain ⟨r, rfl⟩ : ∃ r, cs = y :: r := by
      cases cs with
      | nil => cases hx
      | cons c cs => exact ⟨cs, by rw [Option.some.inj hx]⟩
    obtain ⟨u, rfl, hu⟩ := hp a (by simpa using h)
    exact ⟨y :: u, rfl, List.forall_mem_cons.mpr ⟨hy, hu⟩⟩
  · exact hq a h

end PathRoute.Reader
