import PathRoute.Proofs.Requirement.Plain

/-!
# Requirements without captures

What the rewriting leaves of a requirement, told by a scan that only follows escapes and brackets:
no parenthesis outside of classes opens a capturing group. Such a text is not changed any more, so
that one rewriting is enough, for texts that are no regular expressions as well.
-/

namespace PathRoute.Requirement

/-- Where a scan of a requirement stands. -/
inductive Place where
  | outside
  /-- At the front of a class, behind its bracket or behind the negation that follows it. -/
  | front (negated : Bool)
  | inside
  /-- Behind a backslash. -/
  | escaped (inClass : Bool)
  deriving DecidableEq, Repr

namespace Place

/-- The place behind one more character. At the front of a class a closing bracket is a member. -/
def step : Place → Char → Place
  | .outside, c => if c = '\\' then .escaped false else if c = '[' then .front false else .outside
  | .front negated, c =>
    if c = '\\' then .escaped true else if c = '^' ∧ negated = false then .front true else .inside
  | .inside, c => if c = '\\' then .escaped true else if c = ']' then .outside else .inside
  | .escaped inClass, _ => if inClass then .inside else .outside

/-- The place within or outside of a class. -/
def ofClass (inClass : Bool) : Place := if inClass then .inside else .outside

/-- The place behind a text. -/
def after (p : Place) (cs : List Char) : Place := cs.foldl step p

end Place

/-- With this text behind its parenthesis a group captures: no question mark follows, or a name
does. -/
def Captures (cs : List Char) : Prop :=
  ¬['?'] <+: cs ∨ ['?', 'P', '<'] <+: cs ∨
    ['?', '<'] <+: cs ∧ ¬['?', '<', '='] <+: cs ∧ ¬['?', '<', '!'] <+: cs

/-- From a place on, no parenthesis that is neither escaped nor in a class opens a capturing
group. -/
def CapturelessFrom (p : Place) (cs : List Char) : Prop :=
  ∀ front back, cs = front ++ '(' :: back → p.after front = .outside → ¬Captures back

/-- No capturing group opens in the text. -/
def Captureless (text : String) : Prop := CapturelessFrom .outside text.toList

variable {b : Bool} {p q : Place} {c : Char} {u cs ds : List Char}

/-! ## Groups that capture -/

theorem captures_iff : Captures cs ↔ cs.head? ≠ some '?' ∨ opensNamed cs = true := by
  have hprefix : ∀ u v : List Char, u <+: v ↔ ∃ rest, v = u ++ rest := fun u v =>
    exists_congr fun _ => eq_comm
  rw [Captures, List.singleton_prefix_iff_head?_eq_some]
  fun_cases opensNamed cs <;> simp_all

/-- The rewriting adds and takes away no characters that it copies in front of a text. -/
theorem prefix_dropCaptures_iff (hu : ∀ c ∈ u, IsPlain c) :
    u <+: dropCaptures b cs ↔ u <+: cs := by
  induction u generalizing cs with
  | nil => simp
  | cons c u ih =>
    obtain ⟨hc, hu⟩ := List.forall_mem_cons.mp hu
    cases cs with
    | nil => simp
    | cons d cs =>
      by_cases hd : d = c
      · rw [hd, dropCaptures_cons hc, List.cons_prefix_cons, List.cons_prefix_cons, ih hu]
      · obtain ⟨tail, htail⟩ := List.head?_eq_some_iff.mp (head_dropCaptures (b := b) (d :: cs))
        simp [htail, List.cons_prefix_cons, Ne.symm hd]

theorem captures_dropCaptures : Captures (dropCaptures b cs) ↔ Captures cs := by
  have hprefix : ∀ u : List Char, u.all (IsPlain ·) = true → (u <+: dropCaptures b cs ↔ u <+: cs) :=
    fun u hu => prefix_dropCaptures_iff (plain_of_all hu)
  rw [Captures, Captures, hprefix _ (by decide), hprefix _ (by decide), hprefix _ (by decide),
    hprefix _ (by decide), hprefix _ (by decide)]

/-! ## The scan, case by case -/

theorem capturelessFrom_nil : CapturelessFrom p [] := by
  intro front back h
  simp at h

theorem capturelessFrom_cons : CapturelessFrom p (c :: cs) ↔
    (p = .outside → c = '(' → ¬Captures cs) ∧ CapturelessFrom (p.step c) cs := by
  constructor
  · intro h
    refine ⟨fun hp hc => h [] cs (by rw [hc]; rfl) hp, fun front back heq hplace => ?_⟩
    exact h (c :: front) back (by rw [heq]; rfl) hplace
  · rintro ⟨hhead, htail⟩ (_ | ⟨d, front⟩) back heq hplace
    · obtain ⟨rfl, rfl⟩ := List.cons.inj heq
      exact hhead hplace rfl
    · obtain ⟨rfl, rfl⟩ := List.cons.inj heq
      exact htail front back rfl hplace

theorem capturelessFrom_plain (h : IsPlain c) :
    CapturelessFrom (.ofClass b) (c :: cs) ↔ CapturelessFrom (.ofClass b) cs := by
  have hc : (c ≠ '\\' ∧ c ≠ '[' ∧ c ≠ '(') ∧ c ≠ ']' := by simpa [IsPlain, and_assoc] using h
  have hstep : (Place.ofClass b).step c = .ofClass b := by
    cases b <;> simp [Place.ofClass, Place.step, hc]
  rw [capturelessFrom_cons, hstep]
  exact and_iff_right fun _ hparen => absurd hparen hc.1.2.2

theorem capturelessFrom_escape :
    CapturelessFrom (.ofClass b) ('\\' :: c :: cs) ↔ CapturelessFrom (.ofClass b) cs := by
  have hstep : (Place.ofClass b).step '\\' = .escaped b := by cases b <;> rfl
  rw [capturelessFrom_cons, hstep, capturelessFrom_cons]
  simp [Place.step, Place.ofClass]

theorem capturelessFrom_close :
    CapturelessFrom (.ofClass b) (']' :: cs) ↔ CapturelessFrom (.ofClass false) cs := by
  cases b <;> simp [capturelessFrom_cons, Place.ofClass, Place.step]

/-- Within a class brackets and parentheses open nothing. -/
theorem capturelessFrom_member (h : c = '[' ∨ c = '(') :
    CapturelessFrom (.ofClass true) (c :: cs) ↔ CapturelessFrom (.ofClass true) cs := by
  rcases h with rfl | rfl <;> simp [capturelessFrom_cons, Place.ofClass, Place.step]

theorem capturelessFrom_paren : CapturelessFrom (.ofClass false) ('(' :: cs) ↔
    ¬Captures cs ∧ CapturelessFrom (.ofClass false) cs := by
  simp [capturelessFrom_cons, Place.ofClass, Place.step]

/-- Places within a class that the next character does not tell apart. -/
theorem capturelessFrom_congr (hp : p ≠ .outside) (hq : q ≠ .outside)
    (h : ∀ c, cs.head? = some c → p.step c = q.step c) :
    CapturelessFrom p cs ↔ CapturelessFrom q cs := by
  cases cs with
  | nil => exact iff_of_true capturelessFrom_nil capturelessFrom_nil
  | cons c cs => simp [capturelessFrom_cons, h c rfl, hp, hq]

theorem head_ne (h : ∀ tail, cs = c :: tail → False) : cs.head? ≠ some c := by
  intro hc
  obtain ⟨tail, rfl⟩ := List.head?_eq_some_iff.mp hc
  exact h tail rfl

/-- At the front of a class the scan goes where the rewriting goes. -/
theorem capturelessFrom_class :
    CapturelessFrom (.ofClass false) ('[' :: cs) ↔
      CapturelessFrom (.ofClass true) (classFront cs).2 := by
  have hopen : CapturelessFrom (.ofClass false) ('[' :: cs) ↔
      CapturelessFrom (.front false) cs := by
    simp [capturelessFrom_cons, Place.ofClass, Place.step]
  have hinside : ∀ negated ds, ds.head? ≠ some ']' → (ds.head? = some '^' → negated = true) →
      (CapturelessFrom (.front negated) ds ↔ CapturelessFrom (.ofClass true) ds) := by
    intro negated ds hclose hnegated
    refine capturelessFrom_congr (by simp) (by simp [Place.ofClass]) fun c hc => ?_
    rw [hc] at hclose hnegated
    by_cases hc : c = '^' <;> simp_all [Place.step, Place.ofClass]
  rw [hopen]
  fun_cases classFront cs with
  | case1 rest => simp [capturelessFrom_cons, Place.step, Place.ofClass]
  | case2 rest hclose =>
    have hstep :
        CapturelessFrom (.front false) ('^' :: rest) ↔ CapturelessFrom (.front true) rest := by
      simp [capturelessFrom_cons, Place.step]
    rw [hstep]
    exact hinside true rest (head_ne hclose) fun _ => rfl
  | case3 rest => simp [capturelessFrom_cons, Place.step, Place.ofClass]
  | case4 _ _ hnegated hclose =>
    exact hinside false cs (head_ne hclose) fun h => absurd h (head_ne hnegated)

/-- A class keeps its front where what follows it begins with the same character. -/
theorem classFront_append_of_head (h : ds.head? = (classFront cs).2.head?) :
    classFront ((classFront cs).1 ++ ds) = ((classFront cs).1, ds) := by
  revert h
  fun_cases classFront cs with
  | case1 | case3 => exact fun _ => rfl
  | case2 rest hclose => exact fun h => classFront_append (.inr rfl) (h ▸ head_ne hclose)
  | case4 _ _ hnegated hclose =>
    exact fun h => classFront_append (.inl ⟨rfl, h ▸ head_ne hnegated⟩) (h ▸ head_ne hclose)

/-! ## What is rewritten -/

/-- What is copied as it stands is no sign of the rewriting, or a backslash at the end. -/
theorem plain_or_last (hback : ∀ d ds, c = '\\' → cs = d :: ds → False) (hopen : c ≠ '[')
    (hclose : c ≠ ']') (hparen : c ≠ '(') : IsPlain c ∨ c = '\\' ∧ cs = [] := by
  by_cases hc : c = '\\'
  · cases cs with
    | nil => exact .inr ⟨hc, rfl⟩
    | cons d ds => exact absurd rfl (hback d ds hc)
  · exact .inl (by simp [IsPlain, hc, hopen, hclose, hparen])

theorem capturelessFrom_opening (h : CapturelessFrom (.ofClass false) cs) :
    CapturelessFrom (.ofClass false) (opening ++ cs) := by
  have hgroup : ¬Captures ('?' :: ':' :: cs) := by
    rw [captures_iff]
    simp [opensNamed]
  have hmarks : CapturelessFrom (.ofClass false) ('?' :: ':' :: cs) := by
    rwa [capturelessFrom_plain (by decide), capturelessFrom_plain (by decide)]
  exact capturelessFrom_paren.mpr ⟨hgroup, hmarks⟩

/-- The rewriting leaves no capturing group. -/
theorem capturelessFrom_dropCaptures (b : Bool) (cs : List Char) :
    CapturelessFrom (.ofClass b) (dropCaptures b cs) := by
  fun_induction dropCaptures b cs with
  | case1 b => exact capturelessFrom_nil
  | case2 b c cs ih => exact capturelessFrom_escape.mpr ih
  | case3 cs ih => exact (capturelessFrom_member (.inl rfl)).mpr ih
  | case4 b cs hb ih =>
    obtain rfl := (Bool.not_eq_true _).mp hb
    rwa [capturelessFrom_class, classFront_append_of_head (head_dropCaptures _)]
  | case5 b cs ih => exact capturelessFrom_close.mpr ih
  | case6 cs ih => exact (capturelessFrom_member (.inr rfl)).mpr ih
  | case7 b cs hb _ ih | case8 b cs hb _ _ ih =>
    obtain rfl := (Bool.not_eq_true _).mp hb
    exact capturelessFrom_opening ih
  | case9 b cs hb hquestion hnamed ih =>
    obtain rfl := (Bool.not_eq_true _).mp hb
    rw [capturelessFrom_paren, captures_dropCaptures, captures_iff, not_or]
    exact ⟨⟨hquestion, hnamed⟩, ih⟩
  | case10 b c cs hback hopen hclose hparen ih =>
    rcases plain_or_last hback hopen hclose hparen with hplain | ⟨-, rfl⟩
    · exact (capturelessFrom_plain hplain).mpr ih
    · rw [dropCaptures_nil, capturelessFrom_cons]
      exact ⟨fun _ hc => absurd hc hparen, capturelessFrom_nil⟩

/-- Where no capturing group opens there is nothing to rewrite. -/
theorem dropCaptures_eq_self (h : CapturelessFrom (.ofClass b) cs) : dropCaptures b cs = cs := by
  fun_induction dropCaptures b cs with
  | case1 b => rfl
  | case2 b c cs ih => rw [ih (capturelessFrom_escape.mp h)]
  | case3 cs ih => rw [ih ((capturelessFrom_member (.inl rfl)).mp h)]
  | case4 b cs hb ih =>
    obtain rfl := (Bool.not_eq_true _).mp hb
    rw [ih (capturelessFrom_class.mp h), classFront_append_rest]
  | case5 b cs ih => rw [ih (capturelessFrom_close.mp h)]
  | case6 cs ih => rw [ih ((capturelessFrom_member (.inr rfl)).mp h)]
  | case7 b cs hb hquestion ih =>
    obtain rfl := (Bool.not_eq_true _).mp hb
    exact absurd (captures_iff.mpr (.inl hquestion)) (capturelessFrom_paren.mp h).1
  | case8 b cs hb _ hnamed ih =>
    obtain rfl := (Bool.not_eq_true _).mp hb
    exact absurd (captures_iff.mpr (.inr hnamed)) (capturelessFrom_paren.mp h).1
  | case9 b cs hb _ _ ih =>
    obtain rfl := (Bool.not_eq_true _).mp hb
    rw [ih (capturelessFrom_paren.mp h).2]
  | case10 b c cs hback hopen hclose hparen ih =>
    rcases plain_or_last hback hopen hclose hparen with hplain | ⟨-, rfl⟩
    · rw [ih ((capturelessFrom_plain hplain).mp h)]
    · rw [dropCaptures_nil]

theorem captureless_withoutCaptures (text : String) : Captureless (withoutCaptures text) := by
  rw [Captureless, withoutCaptures, String.toList_ofList]
  exact capturelessFrom_dropCaptures false text.toList

theorem withoutCaptures_eq_self {text : String} (h : Captureless text) :
    withoutCaptures text = text := by
  have hsame : dropCaptures false text.toList = text.toList := dropCaptures_eq_self h
  rw [withoutCaptures, hsame, String.ofList_toList]

/-- Whatever text is rewritten, in the result no group captures that is opened outside of classes,
so that a second rewriting changes nothing: the texts without such groups, and no others, are left
as they are. -/
theorem withoutCaptures_settles (text : String) :
    withoutCaptures (withoutCaptures text) = withoutCaptures text ∧
    Captureless (withoutCaptures text) ∧
    (withoutCaptures text = text ↔ Captureless text) := by
  have hcaptureless := captureless_withoutCaptures text
  refine ⟨withoutCaptures_eq_self hcaptureless, hcaptureless, fun hsame => ?_,
    withoutCaptures_eq_self⟩
  rwa [hsame] at hcaptureless

example : withoutCaptures "[](](a)(?<n" = "[](](?:a)(?:" := by decide +kernel

end PathRoute.Requirement
