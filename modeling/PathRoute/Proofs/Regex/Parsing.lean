import PathRoute.Proofs.Text.Reader
import PathRoute.Regex.Parser

/-!
# Reading simple expressions

How the parser goes on from the pieces that templates are made of: quoted text, groups, and
repetitions of the last part. No flag is set there, so that every character stands for itself.
-/

namespace PathRoute.Regex

/-- Go on to the end of a text. -/
def feed (s : ParseState) (cs : List Char) : Except Error ParseState :=
  ((Reader.repeatWhile (fun _ _ => true) step s).run cs).map Prod.fst

@[simp] theorem feed_nil (s : ParseState) : feed s [] = .ok s := by
  rw [feed, Reader.run_repeatWhile_nil]
  rfl

theorem feed_cons (s : ParseState) (c : Char) (cs : List Char) :
    feed s (c :: cs) =
      match (step s c).run cs with
      | .error e => .error e
      | .ok (s', rest) => feed s' rest := by
  rw [feed, Reader.run_repeatWhile_of rfl, Reader.run_bind]
  cases (step s c).run cs with
  | error e => rfl
  | ok r => rfl

theorem parse_eq (text : String) : parse text = feed {} text.toList >>= finish := by
  simp only [parse, feed, Except.map]
  cases (Reader.repeatWhile (fun _ _ => true) step {}).run text.toList with
  | error e => rfl
  | ok r => rfl

variable {s s' : ParseState} {c : Char} {cs : List Char}

/-- An expression whose groups are closed is refused for its depth or its size alone. -/
theorem finish_cases (hs : s.outer = []) :
    finish s = .error .nestedTooDeep ∨ finish s = .error .tooLarge ∨
      finish s = .ok s.current.close.regex := by
  simp only [finish, hs, List.isEmpty_nil, Bool.not_true, Bool.false_eq_true, if_false]
  split
  · exact .inl rfl
  · split
    · exact .inr (.inl rfl)
    · exact .inr (.inr rfl)

theorem feed_of_step {rest : List Char} (h : (step s c).run cs = .ok (s', rest)) :
    feed s (c :: cs) = feed s' rest := by
  rw [feed_cons, h]

/-- A reading that succeeds has succeeded with its first step. -/
theorem exists_step_of_feed {fin : ParseState} (h : feed s (c :: cs) = .ok fin) :
    ∃ s' rest, (step s c).run cs = .ok (s', rest) ∧ feed s' rest = .ok fin := by
  rw [feed_cons] at h
  cases hs : (step s c).run cs with
  | error e => simp [hs] at h
  | ok r => exact ⟨r.1, r.2, rfl, by simpa [hs] using h⟩

/-! ## Characters -/

theorem run_literal (byte : Bool) : (literal {} c byte).run cs = .ok (.single c, cs) := rfl

theorem feed_plain (hs : s.flags = {}) (hc : isMeta c = false) :
    feed s (c :: cs) = feed (s.pushClass (.single c)) cs := by
  apply feed_of_step
  have hc : ∀ d ∈ ['\\', '.', '+', '*', '?', '(', ')', '|', '[', ']', '\x7b', '\x7d', '^', '$',
      '#', '&', '-', '~'], c ≠ d := by
    rintro d hd rfl
    simp [isMeta] at hc hd
    simp_all
  unfold step
  simp only [hs]
  split <;> simp_all [run_literal]

theorem run_readEscape_of_isMeta (hc : isMeta c = true) :
    (readEscape {}).run (c :: cs) = .ok (.char c false, cs) := by
  simp only [isMeta, List.contains_eq_mem, List.mem_cons, decide_eq_true_eq, List.not_mem_nil,
    or_false] at hc
  rcases hc with rfl | rfl | rfl | rfl | rfl | rfl | rfl | rfl | rfl | rfl | rfl | rfl | rfl |
    rfl | rfl | rfl | rfl | rfl <;> rfl

theorem feed_escaped (hs : s.flags = {}) (hc : isMeta c = true) :
    feed s ('\\' :: c :: cs) = feed (s.pushClass (.single c)) cs := by
  apply feed_of_step
  simp [step, hs, pushEscape, run_readEscape_of_isMeta hc, run_literal]

/-- Quoted text is read as its characters. -/
theorem feed_quote (hs : s.flags = {}) (text : List Char) :
    feed s (quote text ++ cs) = feed (text.foldl (fun s c => s.pushClass (.single c)) s) cs := by
  induction text generalizing s with
  | nil => rfl
  | cons c text ih =>
    rw [quote_cons, List.foldl_cons]
    by_cases hc : isMeta c = true
    · rw [if_pos hc, List.append_assoc, List.cons_append, List.singleton_append,
        feed_escaped hs hc, ih (by exact hs)]
    · rw [if_neg hc, List.append_assoc, List.singleton_append,
        feed_plain hs (by simpa using hc), ih (by exact hs)]

/-! ## Groups -/

theorem feed_open (hs : s.flags = {}) (hc : cs.head? ≠ some '?') :
    feed s ('(' :: cs) = feed s.capture cs := by
  apply feed_of_step
  simp only [step, hs, openGroup, skipBlanks]
  simp
  split <;> simp_all

theorem feed_close (hs : s.flags = {}) {g : OpenGroup} {outer : List OpenGroup}
    (hg : s.outer = g :: outer) :
    feed s (')' :: cs) =
      feed { s with
        flags := g.flags
        current := g.before.push (s.current.close.group g.index)
        outer } cs := by
  apply feed_of_step
  simp [step, hs, closeGroup, hg]

/-! ## Repetitions -/

/-- A state with other last parts. -/
def ParseState.withParts (s : ParseState) (ps : List Part) : ParseState :=
  { s with current := { s.current with parts := ps } }

theorem run_repeated (p : Part) (greedy : Bool) (min : Nat) (max : Option Nat) (cs : List Char) :
    (p.repeated greedy min max).run cs = .error .tooLarge ∨
      ∃ q : Part, q.regex = repeats greedy p.regex min max ∧ q.setting = false ∧
        (p.repeated greedy min max).run cs = .ok (q, cs) := by
  simp only [Part.repeated]
  split
  · exact .inl rfl
  · exact .inr ⟨_, rfl, rfl, rfl⟩

/-- A repetition changes the last part alone, if there is room for it. -/
theorem run_repeatLast {p : Part} {ps : List Part} (hp : s.current.parts = p :: ps)
    (hset : p.setting = false) (min : Nat) (max : Option Nat) (lazy : Bool) (cs : List Char) :
    (repeatLast s min max lazy).run cs = .error .tooLarge ∨
      ∃ q : Part, q.regex = repeats (lazy == s.flags.swapGreed) p.regex min max ∧
        q.setting = false ∧
        (repeatLast s min max lazy).run cs = .ok (s.withParts (q :: ps), cs) := by
  simp only [repeatLast, hp, hset, Bool.false_eq_true, if_false, Reader.run_bind]
  rcases run_repeated p (lazy == s.flags.swapGreed) min max cs with hrun | ⟨q, hq, hqs, hrun⟩
  · simp [hrun]
  · exact .inr ⟨q, hq, hqs, by simp [hrun, ParseState.withParts]⟩

/-- What follows a repetition of the last part is read with the repeated part in its place, if there
is room for it. -/
theorem feed_of_repeatLast (hs : s.flags = {}) {min : Nat} {max : Option Nat}
    (hstep : (step s c).run cs = (repeatLast s min max false).run cs) {p : Part} {ps : List Part}
    (hp : s.current.parts = p :: ps) (hset : p.setting = false) :
    feed s (c :: cs) = .error .tooLarge ∨
      ∃ q : Part, q.regex = repeats true p.regex min max ∧ q.setting = false ∧
        feed s (c :: cs) = feed (s.withParts (q :: ps)) cs := by
  rcases run_repeatLast hp hset min max false cs with hrun | ⟨q, hq, hqs, hrun⟩
  · left
    rw [feed_cons, hstep, hrun]
  · right
    rw [hs] at hq
    exact ⟨q, hq, hqs, feed_of_step (hstep.trans hrun)⟩

theorem not_question_isPrefix (hc : cs.head? ≠ some '?') : ¬ "?".toList <+: cs := by
  cases cs with
  | nil => simp
  | cons c cs => simpa [List.cons_prefix_cons, eq_comm] using hc

/-- A question mark makes the last part optional. -/
theorem feed_optional_cases (hs : s.flags = {}) {p : Part} {ps : List Part}
    (hp : s.current.parts = p :: ps) (hset : p.setting = false) (hc : cs.head? ≠ some '?') :
    feed s ('?' :: cs) = .error .tooLarge ∨
      ∃ q : Part, q.regex = opt true p.regex ∧ q.setting = false ∧
        feed s ('?' :: cs) = feed (s.withParts (q :: ps)) cs := by
  have hstep : (step s '?').run cs = (repeatLast s 0 (some 1) false).run cs := by
    simp only [step, hs, Bool.false_and, Bool.false_eq_true, if_false, Reader.run_bind,
      Reader.run_skipText_of_not_isPrefix (not_question_isPrefix hc)]
  exact feed_of_repeatLast hs hstep hp hset

/-- A plus repeats the last part, another round first. -/
theorem feed_plus_cases (hs : s.flags = {}) {p : Part} {ps : List Part}
    (hp : s.current.parts = p :: ps) (hset : p.setting = false) (hc : cs.head? ≠ some '?') :
    feed s ('+' :: cs) = .error .tooLarge ∨
      ∃ q : Part, q.regex = .plus true p.regex ∧ q.setting = false ∧
        feed s ('+' :: cs) = feed (s.withParts (q :: ps)) cs := by
  have hstep : (step s '+').run cs = (repeatLast s 1 none false).run cs := by
    simp only [step, hs, Bool.false_and, Bool.false_eq_true, if_false, Reader.run_bind,
      Reader.run_skipText_of_not_isPrefix (not_question_isPrefix hc)]
  exact feed_of_repeatLast hs hstep hp hset

/-- Where the reading succeeds there was room. -/
theorem feed_optional (hs : s.flags = {}) {p : Part} {ps : List Part}
    (hp : s.current.parts = p :: ps) (hset : p.setting = false) (hc : cs.head? ≠ some '?')
    {fin : ParseState} (h : feed s ('?' :: cs) = .ok fin) :
    ∃ q : Part, q.regex = opt true p.regex ∧ q.setting = false ∧
      feed (s.withParts (q :: ps)) cs = .ok fin := by
  rcases feed_optional_cases hs hp hset hc with herror | ⟨q, hq, hqs, hfeed⟩
  · cases herror.symm.trans h
  · exact ⟨q, hq, hqs, hfeed.symm.trans h⟩

end PathRoute.Regex
