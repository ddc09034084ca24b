import PathRoute.Proofs.Regex.Locality

/-!
# Where bracketed classes end

A bracketed class goes up to the bracket that closes it, however classes stand in it, and what
follows that bracket does not matter: `sealed_readBracket`. Within it a member may look ahead, but
never past the bracket.
-/

namespace PathRoute.Regex

open Reader

variable {f : Flags} {cs rest : List Char}

/-- The texts are the same up to a closing bracket. -/
def UpToBracket (r ys : List Char) : Prop := ∃ w s t, r = w ++ ']' :: s ∧ ys = w ++ ']' :: t

theorem lookahead_upToBracket : Lookahead UpToBracket where
  head_eq := by
    rintro _ _ ⟨w, s, t, rfl, rfl⟩
    cases w <;> rfl
  append := by
    rintro _ _ u ⟨w, s, t, rfl, rfl⟩
    exact ⟨u ++ w, s, t, by simp, by simp⟩

theorem idle_memberChar (a : Atom) : Idle (memberChar f a) := by
  cases a with
  | char c byte => exact (idle_pure _).ite (idle_fail _)
  | set | look => exact idle_fail _

theorem idle_memberClass (a : Atom) : Idle (memberClass f a) := by
  cases a with
  | set => exact idle_pure _
  | char | look => exact .bind (idle_memberChar _) fun _ => idle_pure _

theorem idle_completed (negated : Bool) (a : CharClass) : Idle (completed f negated a) := by
  cases negated
  · exact Idle.ite (idle_fail _) (idle_pure _)
  · exact Idle.ite (idle_fail _) (idle_pure _)

theorem idle_close (b : Bracket) : Idle (b.close f) :=
  .bind (idle_completed _ _) fun _ => idle_pure _

theorem local_openBracket {ρ : List Char → List Char → Prop} (hρ : Lookahead ρ) :
    Local ρ (openBracket f) := by
  have hblanks := local_skipBlanks (f := f) hρ
  refine .bind hρ hblanks fun _ => .bind hρ (local_skipText hρ rfl) fun negated =>
    .bind hρ hblanks fun _ => .bind hρ (local_repeatWhile hρ (fun _ _ =>
      .bind hρ hblanks fun _ => local_pure _) _) fun hyphens => ?_
  split
  · exact local_pure _
  · refine .bind hρ (local_skipText hρ rfl) fun b => ?_
    split
    · exact .bind hρ hblanks fun _ => local_pure _
    · exact local_pure _

/-! ## Members -/

theorem dropWhile_isBlank_append (w s : List Char) :
    (w ++ ']' :: s).dropWhile isBlank = w.dropWhile isBlank ++ ']' :: s := by
  rw [List.dropWhile_append]
  split
  · rename_i h
    have hblank : ¬ isBlank ']' = true := by decide
    rw [List.isEmpty_iff.mp h, List.dropWhile_cons_of_neg hblank, List.nil_append]
  · rfl

/-- What stands behind a comment sign, or the text itself. -/
def pastComment : List Char → List Char
  | '#' :: more => more.dropWhile isBlank
  | more => more

theorem afterHyphen_eq (cs : List Char) :
    afterHyphen f cs =
      if !f.verbose then (cs.drop 1).head?
      else (pastComment ((cs.drop 1).dropWhile isBlank)).head? <|> (cs.drop 1).head? := rfl

theorem head_pastComment (w s t : List Char) :
    (pastComment (w ++ ']' :: s)).head? = (pastComment (w ++ ']' :: t)).head? := by
  cases w with
  | nil => rfl
  | cons c w =>
    by_cases hc : c = '#'
    · subst hc
      simp only [List.cons_append, pastComment, dropWhile_isBlank_append]
      cases w.dropWhile isBlank <;> rfl
    · have hne (v : List Char) : pastComment (c :: v) = c :: v := by
        unfold pastComment
        split
        · rename_i h
          exact absurd (List.cons.inj h).1 hc
        · rfl
      simp only [List.cons_append, hne, List.head?_cons]

theorem afterHyphen_congr {r ys : List Char} {c d : Char}
    (h : UpToBracket (c :: r) (d :: ys)) (hc : c ≠ ']') :
    afterHyphen f (c :: r) = afterHyphen f (d :: ys) := by
  obtain ⟨w, s, t, hr, hys⟩ := h
  cases w with
  | nil => exact absurd (List.cons.inj hr).1 hc
  | cons _ w =>
    obtain rfl : r = w ++ ']' :: s := (List.cons.inj hr).2
    obtain rfl : ys = w ++ ']' :: t := (List.cons.inj hys).2
    have hhead : (w ++ ']' :: s).head? = (w ++ ']' :: t).head? := by cases w <;> rfl
    simp only [afterHyphen_eq, List.drop_one, List.tail_cons, dropWhile_isBlank_append, hhead,
      head_pastComment (w.dropWhile isBlank) s t]

theorem localAt_readAtom {ρ : List Char → List Char → Prop} (hρ : Lookahead ρ) {c : Char} {a : Atom}
    (ha : ∀ l, a ≠ .look l) : LocalAt ρ (readAtom f c) a := by
  unfold readAtom
  split
  · exact localAt_readEscape hρ ha
  · exact local_pure _ a

theorem ne_look_of_memberChar {a : Atom} {d : Char} (h : (memberChar f a).run cs = .ok (d, rest)) :
    ∀ l, a ≠ .look l := by
  rintro l rfl
  cases h

theorem ne_look_of_memberClass {a : Atom} {d : CharClass}
    (h : (memberClass f a).run cs = .ok (d, rest)) : ∀ l, a ≠ .look l := by
  rintro l rfl
  cases h

/-- The rest of a range, after its hyphen. -/
def readRangeEnd (f : Flags) (first : Atom) : Read Nested := do
  skipBlanks f
  let last ← readAtom f (← Reader.next .unclosedClass)
  let a ← memberChar f first
  let b ← memberChar f last
  if b < a then .fail .badRange
  return { cls := .ranges [(a.toNat, b.toNat)] }

theorem local_readRangeEnd (first : Atom) : Local UpToBracket (readRangeEnd f first) := by
  have hρ := lookahead_upToBracket
  refine .bind hρ (local_skipBlanks hρ) fun _ => .bind hρ (local_next _) fun c m =>
    LocalAt.bind hρ (fun last hlast => localAt_readAtom hρ ?_) fun last => ?_
  · obtain ⟨cs, rest, h⟩ := hlast
    obtain ⟨a, mid, -, h⟩ := exists_of_run_bind h
    obtain ⟨b, mid, hb, -⟩ := exists_of_run_bind h
    exact ne_look_of_memberChar hb
  · refine (Idle.bind (idle_memberChar _) fun a => .bind (idle_memberChar _) fun b => ?_).isLocal m
    exact .ite (idle_fail_bind _ _) (idle_pure _)

theorem ne_look_of_readRangeEnd {first : Atom} {m : Nested}
    (h : (readRangeEnd f first).run cs = .ok (m, rest)) : ∀ l, first ≠ .look l := by
  obtain ⟨_, _, -, h⟩ := exists_of_run_bind h
  obtain ⟨_, _, -, h⟩ := exists_of_run_bind h
  obtain ⟨_, _, -, h⟩ := exists_of_run_bind h
  obtain ⟨_, _, h, -⟩ := exists_of_run_bind h
  exact ne_look_of_memberChar h

/-- Whether a member has no hyphen behind it that makes it a range. -/
def isSingle (f : Flags) (cs : List Char) : Bool :=
  cs.head? != some '-' || afterHyphen f cs == some ']' || afterHyphen f cs == some '-'

theorem isSingle_congr {r ys : List Char} (h : UpToBracket r ys) :
    isSingle f r = isSingle f ys := by
  have hhead := lookahead_upToBracket.head_eq h
  by_cases hr : r.head? = some '-'
  · obtain ⟨r, rfl⟩ := List.head?_eq_some_iff.mp hr
    obtain ⟨ys, rfl⟩ := List.head?_eq_some_iff.mp (hhead.symm.trans hr)
    rw [isSingle, isSingle, afterHyphen_congr h (by decide)]
    rfl
  · have hne : (r.head? != some '-') = true := by simpa using hr
    simp only [isSingle, ← hhead, hne, Bool.true_or]

/-- What follows the first character of a member. -/
def readMemberEnd (f : Flags) (first : Atom) : Read Nested := do
  let cs ← Reader.ahead
  if cs.isEmpty then .fail .unclosedClass
  else if isSingle f cs then return { cls := ← memberClass f first }
  else
    Reader.skip 1
    readRangeEnd f first

theorem readMember_eq (c : Char) : readMember f c =
    readAtom f c >>= fun first => skipBlanks f >>= fun _ => readMemberEnd f first :=
  bind_congr fun _ => bind_congr fun _ => bind_congr fun ds => by cases ds <;> rfl

/-- A member on its own. -/
def readSingle (f : Flags) (first : Atom) : Read Nested := do
  return { cls := ← memberClass f first }

theorem idle_readSingle (first : Atom) : Idle (readSingle f first) :=
  .bind (idle_memberClass first) fun _ => idle_pure _

theorem run_readMemberEnd_of_single {first : Atom} (hcs : cs ≠ []) (hs : isSingle f cs = true) :
    (readMemberEnd f first).run cs = (readSingle f first).run cs := by
  rw [readMemberEnd, run_bind, run_ahead]
  simp only [List.isEmpty_eq_false_iff.mpr hcs, hs, Bool.false_eq_true, if_false, if_true]
  rfl

theorem run_readMemberEnd_of_range {first : Atom} (hs : isSingle f ('-' :: cs) = false) :
    (readMemberEnd f first).run ('-' :: cs) = (readRangeEnd f first).run cs := by
  rw [readMemberEnd, run_bind, run_ahead]
  simp only [List.isEmpty_cons, hs, Bool.false_eq_true, if_false]
  rw [run_bind, run_skip]
  rfl

/-- A member is read on its own, or a hyphen behind it makes it a range. -/
theorem readMemberEnd_cases {first : Atom} {m : Nested}
    (h : (readMemberEnd f first).run cs = .ok (m, rest)) :
    (isSingle f cs = true ∧ (readSingle f first).run cs = .ok (m, rest)) ∨
      ∃ tail, cs = '-' :: tail ∧ isSingle f cs = false ∧
        (readRangeEnd f first).run tail = .ok (m, rest) := by
  have hcs : cs ≠ [] := by
    rintro rfl
    cases h
  cases hs : isSingle f cs with
  | true => exact .inl ⟨rfl, (run_readMemberEnd_of_single hcs hs).symm.trans h⟩
  | false =>
    have hhead := hs
    simp only [isSingle, Bool.or_eq_false_iff, bne_eq_false_iff_eq] at hhead
    obtain ⟨tail, rfl⟩ := List.head?_eq_some_iff.mp hhead.1.1
    exact .inr ⟨tail, rfl, rfl, (run_readMemberEnd_of_range hs).symm.trans h⟩

theorem local_readMemberEnd (first : Atom) : Local UpToBracket (readMemberEnd f first) := by
  intro m cs rest h
  rcases readMemberEnd_cases h with ⟨hsingle, h⟩ | ⟨tail, rfl, hrange, h⟩
  · obtain ⟨rfl, hall⟩ := (idle_readSingle first).run h
    refine ⟨[], rfl, fun ys hy => ?_⟩
    have hys : ys ≠ [] := by
      obtain ⟨w, s, t, -, rfl⟩ := hy
      simp
    rw [isSingle_congr hy] at hsingle
    rw [List.nil_append, run_readMemberEnd_of_single hys hsingle]
    exact hall ys
  · obtain ⟨u, rfl, hu⟩ := local_readRangeEnd first m h
    refine ⟨'-' :: u, rfl, fun ys hy => ?_⟩
    have hys := lookahead_upToBracket.append ('-' :: u) hy
    rw [← List.cons_append, isSingle_congr hys, List.cons_append] at hrange
    rw [List.cons_append, run_readMemberEnd_of_range hrange]
    exact hu hy

theorem ne_look_of_readMemberEnd {first : Atom} {m : Nested}
    (h : (readMemberEnd f first).run cs = .ok (m, rest)) : ∀ l, first ≠ .look l := by
  rcases readMemberEnd_cases h with ⟨-, h⟩ | ⟨tail, -, -, h⟩
  · obtain ⟨a, mid, h, -⟩ := exists_of_run_bind h
    exact ne_look_of_memberClass h
  · exact ne_look_of_readRangeEnd h

theorem local_readMember (c : Char) : Local UpToBracket (readMember f c) := by
  have hρ := lookahead_upToBracket
  rw [readMember_eq]
  intro m
  refine LocalAt.bind hρ (fun first hfirst => localAt_readAtom hρ ?_) fun first =>
    Local.bind hρ (local_skipBlanks hρ) (fun _ => local_readMemberEnd first) m
  obtain ⟨cs, rest, h⟩ := hfirst
  obtain ⟨_, cs, -, h⟩ := exists_of_run_bind h
  exact ne_look_of_readMemberEnd h

/-! ## Classes by name -/

theorem isAlpha_of_named? {name : List Char} {r : CodeRanges}
    (h : CharClass.Ascii.named? (.ofList name) = some r) : ∀ c ∈ name, c.isAlpha = true := by
  have hname : (String.ofList name).toList = name := String.toList_ofList
  unfold CharClass.Ascii.named? at h
  split at h
  case h_15 => cases h
  all_goals
    rename_i heq
    rw [← hname, heq]
    exact List.all_eq_true.mp (by decide)

/-- What stands between the colons of an ASCII class. -/
def asciiInner (negated : Bool) (name : List Char) : List Char :=
  if negated then '^' :: name else name

theorem asciiClass?_inner {negated : Bool} {name : List Char} {r : CodeRanges}
    (h : CharClass.Ascii.named? (.ofList name) = some r) (ys : List Char) :
    asciiClass? (':' :: (asciiInner negated name ++ ':' :: ']' :: ys)) =
      some { members := r, negated, width := name.length + if negated then 4 else 3 } := by
  have halpha := isAlpha_of_named? h
  have hcolon : ∀ c ∈ name, (c != ':') = true := by
    intro c hc
    rw [bne_iff_ne]
    rintro rfl
    exact absurd (halpha _ hc) (by decide)
  have htake : (name ++ ':' :: ']' :: ys).takeWhile (· != ':') = name := by
    simp [List.takeWhile_append_of_pos hcolon]
  have hdrop : (name ++ ':' :: ']' :: ys).dropWhile (· != ':') = ':' :: ']' :: ys := by
    simp [List.dropWhile_append_of_pos hcolon]
  cases negated with
  | true => simp [asciiClass?, asciiInner, htake, hdrop, h]
  | false =>
    have hhead : ((name ++ ':' :: ']' :: ys).head? == some '^') = false := by
      cases name with
      | nil => rfl
      | cons c name =>
        have hc : c ≠ '^' := by
          rintro rfl
          exact absurd (halpha _ List.mem_cons_self) (by decide)
        simpa using hc
    simp only [asciiClass?, asciiInner, hhead, Bool.false_eq_true, if_false, htake, hdrop, h]

theorem exists_of_asciiClass? {n : NamedClass} (h : asciiClass? cs = some n) :
    ∃ negated name t, cs = ':' :: (asciiInner negated name ++ ':' :: ']' :: t) ∧
      CharClass.Ascii.named? (.ofList name) = some n.members ∧
      n.width = name.length + if negated then 4 else 3 := by
  unfold asciiClass? at h
  split at h
  · rename_i cs
    dsimp only at h
    split at h
    · rename_i t members hdrop hnamed
      cases h
      refine ⟨cs.head? == some '^', _, t, ?_, hnamed, rfl⟩
      rw [← hdrop]
      by_cases hneg : cs.head? = some '^'
      · obtain ⟨cs, rfl⟩ := List.head?_eq_some_iff.mp hneg
        simp [asciiInner]
      · simp [asciiInner, hneg]
    · cases h
  · cases h

/-- The name of an ASCII class ends with its closing bracket. -/
theorem asciiClass?_local {n : NamedClass} (h : asciiClass? cs = some n) :
    ∃ u t, cs = u ++ ']' :: t ∧ ']' ∉ u ∧ u.length + 1 = n.width ∧
      ∀ ys, asciiClass? (u ++ ']' :: ys) = some n := by
  obtain ⟨negated, name, t, rfl, hnamed, hwidth⟩ := exists_of_asciiClass? h
  have hn := h.symm.trans (asciiClass?_inner hnamed t)
  refine ⟨':' :: (asciiInner negated name ++ [':']), t, by simp, ?_, ?_, fun ys => ?_⟩
  · have hmem : ']' ∉ name := fun hm => absurd (isAlpha_of_named? hnamed _ hm) (by decide)
    cases negated <;> simp [asciiInner, hmem]
  · rw [hwidth]
    cases negated <;> simp [asciiInner]
  · rw [hn, ← asciiClass?_inner hnamed ys]
    simp

theorem asciiClass?_of_upToBracket {r ys : List Char} {n : NamedClass} (h : UpToBracket r ys)
    (hr : asciiClass? r = some n) : asciiClass? ys = some n := by
  obtain ⟨w, s, t, rfl, rfl⟩ := h
  obtain ⟨u, s', heq, hu, -, hall⟩ := asciiClass?_local hr
  rcases List.append_eq_append_iff.mp heq with ⟨a, rfl, ha⟩ | ⟨a, rfl, ha⟩
  · cases a with
    | nil =>
      rw [List.append_nil] at hall
      exact hall t
    | cons c a =>
      obtain rfl := (List.cons.inj ha).1
      exact absurd (by simp) hu
  · cases a with
    | nil =>
      rw [List.append_nil]
      exact hall t
    | cons c a =>
      obtain rfl := (List.cons.inj ha).1
      rw [List.append_assoc, List.cons_append]
      exact hall _

theorem asciiClass?_congr {r ys : List Char} (h : UpToBracket r ys) :
    asciiClass? r = asciiClass? ys := by
  have hsymm : UpToBracket ys r := by
    obtain ⟨w, s, t, hr, hys⟩ := h
    exact ⟨w, t, s, hys, hr⟩
  cases hr : asciiClass? r with
  | some n => exact (asciiClass?_of_upToBracket h hr).symm
  | none =>
    cases hys : asciiClass? ys with
    | none => rfl
    | some n => exact hr.symm.trans (asciiClass?_of_upToBracket hsymm hys)

/-! ## Steps between the brackets -/

/-- A named class is skipped by its width. -/
theorem localFrom_skip {n : NamedClass} (h : asciiClass? cs = some n) {α : Type} {p : Read α}
    (hp : Idle p) : LocalFrom UpToBracket (skip n.width >>= fun _ => p) cs := by
  intro a rest hrun
  obtain ⟨u, t, rfl, -, hwidth, -⟩ := asciiClass?_local h
  have hdrop (ys : List Char) : (u ++ ']' :: ys).drop n.width = ys := by
    rw [← hwidth, List.append_cons]
    exact List.drop_left' (by simp)
  rw [run_bind, run_skip, hdrop] at hrun
  obtain ⟨rfl, hall⟩ := hp.run hrun
  refine ⟨u ++ [']'], by simp, fun ys _ => ?_⟩
  rw [run_bind, run_skip, List.append_assoc, List.singleton_append, hdrop]
  exact hall ys

theorem local_stepBracket (b : Bracket) (outer : List Bracket) (c : Char) :
    Local UpToBracket (stepBracket f b outer c) := by
  have hρ := lookahead_upToBracket
  have hmember : Local UpToBracket
      (readMember f c >>= fun m => pure (.inside (b.push m) outer) : Read BracketState) :=
    .bind hρ (local_readMember c) fun _ => local_pure _
  refine local_ahead hρ (fun r ys hy => ?_) fun cs => ?_
  · simp only [asciiClass?_congr hy, hρ.head_eq hy]
  · split
    · exact (local_pure _).from cs
    · split
      · exact (Local.bind hρ (local_skipWhile hρ _) fun _ => local_pure _).from cs
      · split
        · split
          · rename_i n hn
            exact localFrom_skip hn (.bind (idle_completed _ _) fun _ => idle_pure _)
          · exact (Local.bind hρ (local_openBracket hρ) fun _ => local_pure _).from cs
        · exact (Local.bind hρ (idle_close b).isLocal fun whole => by
            split <;> exact local_pure _).from cs
        · split
          · split
            · rename_i hhead
              obtain ⟨cs, rfl⟩ := List.head?_eq_some_iff.mp (beq_iff_eq.mp hhead)
              exact localFrom_skip_one (local_pure _) c cs
            · exact hmember.from cs
          · exact hmember.from cs

/-- The reader does not close the whole class. -/
def StaysOpen (p : Read BracketState) : Prop :=
  ∀ cs whole rest, p.run cs ≠ .ok (.closed whole, rest)

theorem staysOpen_pure (b : Bracket) (outer : List Bracket) :
    StaysOpen (pure (.inside b outer)) := by
  rintro cs whole rest ⟨⟩

theorem StaysOpen.bind {α : Type} {p : Read α} {k : α → Read BracketState}
    (hk : ∀ a, StaysOpen (k a)) : StaysOpen (p >>= k) := by
  intro cs whole rest h
  obtain ⟨a, mid, -, h⟩ := exists_of_run_bind h
  exact hk a mid whole rest h

/-- Only a closing bracket closes the whole class. -/
theorem staysOpen_stepBracket (b : Bracket) (outer : List Bracket) {c : Char} (hc : c ≠ ']') :
    StaysOpen (stepBracket f b outer c) := by
  refine .bind fun cs => ?_
  split
  · exact staysOpen_pure _ _
  · split
    · exact .bind fun _ => staysOpen_pure _ _
    · split
      · split
        · exact .bind fun _ => .bind fun _ => staysOpen_pure _ _
        · exact .bind fun _ => staysOpen_pure _ _
      · exact absurd rfl hc
      · split
        · split
          · exact .bind fun _ => staysOpen_pure _ _
          · exact .bind fun _ => staysOpen_pure _ _
        · exact .bind fun _ => staysOpen_pure _ _

/-- Where a class has been closed. -/
def closedIn : List Bracket → Nested → BracketState
  | [], whole => .closed whole
  | up :: outer, whole => .inside (up.push whole) outer

theorem run_stepBracket_close (b : Bracket) (outer : List Bracket) (cs : List Char) :
    (stepBracket f b outer ']').run cs =
      (b.close f >>= fun whole => pure (closedIn outer whole)).run cs := by
  have hblank : isBlank ']' = false := by decide
  rw [stepBracket, run_bind, run_ahead]
  simp only [hblank, Bool.and_false, Bool.false_eq_true, if_false, Char.reduceBEq]
  cases outer <;> rfl

theorem idle_stepBracket (b : Bracket) (outer : List Bracket) :
    Idle (stepBracket f b outer ']') := by
  have hclose : Idle (b.close f >>= fun whole => pure (closedIn outer whole)) :=
    .bind (idle_close b) fun _ => idle_pure _
  obtain ⟨r, hr⟩ := hclose
  exact ⟨r, fun cs => (run_stepBracket_close b outer cs).trans (hr cs)⟩

/-- The loop over what stands between the brackets. -/
def bracketLoop (f : Flags) : BracketState → Read BracketState :=
  Reader.repeatWhile (fun s _ => s.isOpen) fun s c =>
    match s with
    | .inside b outer => stepBracket f b outer c
    | .closed whole => pure (.closed whole)

theorem run_bracketLoop_closed (whole : Nested) (cs : List Char) :
    (bracketLoop f (.closed whole)).run cs = .ok (.closed whole, cs) := by
  cases cs with
  | nil => exact run_repeatWhile_nil ..
  | cons c cs => exact run_repeatWhile_of_not (by simp [BracketState.isOpen])

theorem run_bracketLoop_inside (b : Bracket) (outer : List Bracket) (c : Char) (cs : List Char) :
    (bracketLoop f (.inside b outer)).run (c :: cs) =
      (stepBracket f b outer c >>= bracketLoop f).run cs := run_repeatWhile_of rfl

/-- A class ends with its closing bracket, and nothing behind that matters. -/
theorem run_bracketLoop {s : BracketState} {whole : Nested} (hs : s.isOpen = true)
    (h : (bracketLoop f s).run cs = .ok (.closed whole, rest)) :
    ∃ w, cs = w ++ ']' :: rest ∧
      ∀ ys, (bracketLoop f s).run (w ++ ']' :: ys) = .ok (.closed whole, ys) := by
  generalize hfin : BracketState.closed whole = fin at h ⊢
  refine run_repeatWhile_induction
    (motive := fun s cs fin rest => s.isOpen = true → BracketState.closed whole = fin →
      ∃ w, cs = w ++ ']' :: rest ∧ ∀ ys, (bracketLoop f s).run (w ++ ']' :: ys) = .ok (fin, ys))
    (fun s cs hstop hs hfin => ?_) (fun s c cs s' mid fin rest hc hrun hloop ih hs hfin => ?_)
    h hs hfin
  · subst hfin
    cases hs
  · cases s with
    | closed => cases hs
    | inside b outer =>
      change (stepBracket f b outer c).run cs = .ok (s', mid) at hrun
      change (bracketLoop f s').run mid = .ok (fin, rest) at hloop
      cases s' with
      | closed whole' =>
        have hc : c = ']' := by
          by_cases hne : c = ']'
          · exact hne
          · exact absurd hrun (staysOpen_stepBracket b outer hne _ _ _)
        subst hc
        obtain ⟨rfl, hall⟩ := (idle_stepBracket b outer).run hrun
        rw [run_bracketLoop_closed] at hloop
        cases hloop
        refine ⟨[], rfl, fun ys => ?_⟩
        rw [List.nil_append, run_bracketLoop_inside, run_bind, hall]
        exact run_bracketLoop_closed whole' ys
      | inside b' outer' =>
        obtain ⟨w, rfl, hw⟩ := ih rfl hfin
        obtain ⟨u, rfl, hu⟩ := local_stepBracket b outer c _ hrun
        refine ⟨c :: (u ++ w), by simp, fun ys => ?_⟩
        rw [List.cons_append, run_bracketLoop_inside, List.append_assoc, run_bind,
          hu ⟨w, rest, ys, rfl, rfl⟩]
        exact hw ys

/-- The class that the loop has closed. -/
def wholeClass : BracketState → Read Nested
  | .inside .. => .fail .unclosedClass
  | .closed whole => pure whole

theorem readBracket_eq (f : Flags) : readBracket f =
    openBracket f >>= fun b => bracketLoop f (.inside b []) >>= wholeClass := rfl

/-- A bracketed class ends with its closing bracket, and nothing behind that matters. -/
theorem sealed_readBracket : Sealed (readBracket f) := by
  rw [readBracket_eq]
  refine .after (fun b cs m rest h => ?_) (local_openBracket lookahead_sameHead)
  obtain ⟨s, mid, hloop, hend⟩ := exists_of_run_bind h
  cases s with
  | inside => cases hend
  | closed whole =>
    cases hend
    obtain ⟨w, rfl, hw⟩ := run_bracketLoop rfl hloop
    refine ⟨w ++ [']'], by simp, by simp, fun ys => ?_⟩
    rw [List.append_assoc, List.singleton_append, run_bind, hw]
    rfl

end PathRoute.Regex
