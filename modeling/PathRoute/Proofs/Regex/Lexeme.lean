import PathRoute.Proofs.Regex.Brackets
import PathRoute.Proofs.Regex.Parsing

/-!
# Lexemes

A step of reading an expression takes a lexeme, which depends on nothing but the flags and the text
ahead, and then does to the state what the lexeme says: `step_eq`. So what is known of a text is
known once and for all states in which it may be read.
-/

namespace PathRoute.Regex

open Reader

attribute [local instance] Reader.lawfulMonad

/-- What one step reads, apart from the state in which it is read. -/
inductive Lexeme where
  /-- Nothing that is part of the expression. -/
  | blank
  /-- A character of a class, and how deep the parts of the class stand in each other. -/
  | char (a : CharClass) (depth : Nat)
  | look (l : Look)
  | alternate
  | repetition (min : Nat) (max : Option Nat) (lazy : Bool)
  | capture (name : Option (List Char))
  | group (fs : FlagList)
  | setting (fs : FlagList)
  | close

/-- The name of a capturing group, after the angle bracket before it. -/
def readNamed : Read Lexeme := do return .capture (some (← readGroupName))

/-- A change of flags, after the question mark. -/
def readSetting : Read Lexeme := do
  let fs ← readFlags
  if (← Reader.next .badFlags) == ':' then return .group fs
  if fs.flags.isEmpty then .fail .missingOperand
  return .setting fs

/-- The kind of a group, after the parenthesis that opens it. -/
def readGroup : Read Lexeme := do
  match ← Reader.ahead with
  | '?' :: '=' :: _ | '?' :: '!' :: _ => .fail .unsupported
  | '?' :: '<' :: '=' :: _ | '?' :: '<' :: '!' :: _ => .fail .unsupported
  | '?' :: 'P' :: '<' :: _ => Reader.skip 3; readNamed
  | '?' :: '<' :: _ => Reader.skip 2; readNamed
  | '?' :: _ => Reader.skip 1; readSetting
  | _ => return .capture none

/-- What an escape stands for outside of classes. -/
def escapeLexeme (f : Flags) : Atom → Read Lexeme
  | .char c byte => return .char (← literal f c byte) 0
  | .set a => return .char a 0
  | .look l => return .look l

/-- The lexeme that begins with a character where no blank does. -/
def readMark (f : Flags) (c : Char) : Read Lexeme := do
  match c with
  | '(' => skipBlanks f; readGroup
  | ')' => return .close
  | '|' => return .alternate
  | '[' =>
    let m ← readBracket f
    return .char m.cls m.depth
  | '?' => return .repetition 0 (some 1) (← Reader.skipText "?")
  | '*' => return .repetition 0 none (← Reader.skipText "?")
  | '+' => return .repetition 1 none (← Reader.skipText "?")
  | '{' =>
    let (min, max) ← readCounts f
    skipBlanks f
    return .repetition min max (← Reader.skipText "?")
  | '\\' => escapeLexeme f (← readEscape f)
  | '.' => if f.unicode then return .char (dot f) 0 else .fail .needsUnicode
  | '^' => return .look (if f.multiLine then .lineStart f.crlf else .textStart)
  | '$' => return .look (if f.multiLine then .lineEnd f.crlf else .textEnd)
  | c => return .char (← literal f c false) 0

/-- The lexeme that begins with a character, under the flags in force. -/
def readLexeme (f : Flags) (c : Char) : Read Lexeme := do
  if f.verbose && isBlank c then return .blank
  if f.verbose && c == '#' then
    Reader.skipWhile (· != '\n')
    return .blank
  readMark f c

theorem readLexeme_eq_readMark {c : Char} (h : (isBlank c || c == '#') = false) (f : Flags) :
    readLexeme f c = readMark f c := by
  obtain ⟨hblank, hnote⟩ := Bool.or_eq_false_iff.mp h
  simp only [readLexeme, hblank, hnote, Bool.and_false, Bool.false_eq_true, if_false]

namespace Lexeme

/-- What a lexeme does to the state. -/
def apply (s : ParseState) : Lexeme → Read ParseState
  | .blank => pure s
  | .char a depth => pure (s.push { regex := .char a, depth, size := .ofClass a })
  | .look l => pure (s.push { regex := .look l })
  | .alternate => pure { s with current := s.current.alternate }
  | .repetition min max lazy => repeatLast s min max lazy
  | .capture none => pure s.capture
  | .capture (some name) => do
    if s.names.contains name then .fail .duplicateGroupName
    return { s.capture with names := name :: s.names }
  | .group fs =>
    pure { s with
      flags := s.flags.apply fs
      current := {}
      outer := ⟨s.current, s.flags, none⟩ :: s.outer }
  | .setting fs =>
    pure { s.push { regex := .empty, setting := true } with flags := s.flags.apply fs }
  | .close => closeGroup s

end Lexeme

theorem openGroup_eq (s : ParseState) :
    openGroup s = skipBlanks s.flags >>= fun _ => readGroup >>= Lexeme.apply s := by
  unfold openGroup readGroup
  simp only [bind_assoc]
  refine bind_congr fun _ => bind_congr fun cs => ?_
  split <;>
    try simp only [bind_assoc, pure_bind, fail_bind, openGroup.named, readNamed, readSetting]
  · exact bind_congr fun _ => bind_congr fun name => by simp only [Lexeme.apply, fail_bind]
  · exact bind_congr fun _ => bind_congr fun name => by simp only [Lexeme.apply, fail_bind]
  · refine bind_congr fun _ => bind_congr fun fs => bind_congr fun c => ?_
    split
    · rfl
    · split
      · rw [fail_bind]
      · rfl
  · rfl

theorem step_eq (s : ParseState) (c : Char) :
    step s c = readLexeme s.flags c >>= Lexeme.apply s := by
  unfold step readLexeme
  dsimp only
  split
  · simp only [pure_bind, Lexeme.apply]
  · split
    · simp only [bind_assoc, pure_bind, Lexeme.apply]
    · unfold readMark
      split
      case h_1 => exact (openGroup_eq s).trans (bind_assoc ..).symm
      case h_9 =>
        refine Eq.trans ?_ (bind_assoc ..).symm
        refine bind_congr fun a => ?_
        cases a with
        | char =>
          simp only [escapeLexeme, bind_assoc, pure_bind, Lexeme.apply]
          rfl
        | set => rfl
        | look => rfl
      case h_10 =>
        split
        · rfl
        · exact (fail_bind _ _).symm
      case h_13 =>
        simp only [bind_assoc, pure_bind, Lexeme.apply]
        rfl
      all_goals simp only [bind_assoc, pure_bind, Lexeme.apply]

/-! ## What a lexeme does -/

theorem idle_repeated (p : Part) (greedy : Bool) (min : Nat) (max : Option Nat) :
    Idle (p.repeated greedy min max) := Idle.ite (idle_fail _) (idle_pure _)

theorem idle_apply (s : ParseState) (l : Lexeme) : Idle (l.apply s) := by
  cases l with
  | repetition min max lazy =>
    simp only [Lexeme.apply, repeatLast]
    split
    · exact idle_fail _
    · split
      · exact idle_fail_bind _ _
      · exact .bind (idle_repeated _ _ _ _) fun _ => idle_pure _
  | capture name =>
    cases name with
    | none => exact idle_pure _
    | some name => exact Idle.ite (idle_fail_bind _ _) (idle_pure _)
  | close =>
    simp only [Lexeme.apply, closeGroup]
    split
    · exact idle_fail _
    · exact idle_pure _
  | _ => exact idle_pure _

/-- Reading goes on from a lexeme. -/
theorem feed_of_lexeme {s s' : ParseState} {c : Char} {cs rest : List Char} {l : Lexeme}
    (hl : (readLexeme s.flags c).run cs = .ok (l, rest))
    (hs : (l.apply s).run rest = .ok (s', rest)) : feed s (c :: cs) = feed s' rest := by
  apply feed_of_step
  rw [step_eq, run_bind, hl]
  exact hs

/-- A reading that succeeds has begun with a lexeme. -/
theorem exists_lexeme_of_feed {s fin : ParseState} {c : Char} {cs : List Char}
    (h : feed s (c :: cs) = .ok fin) :
    ∃ l rest s', (readLexeme s.flags c).run cs = .ok (l, rest) ∧
      (l.apply s).run rest = .ok (s', rest) ∧ feed s' rest = .ok fin := by
  obtain ⟨s', rest, hstep, hfeed⟩ := exists_step_of_feed h
  rw [step_eq] at hstep
  obtain ⟨l, mid, hl, hs⟩ := exists_of_run_bind hstep
  obtain ⟨rfl, -⟩ := (idle_apply s l).run hs
  exact ⟨l, rest, s', hl, hs, hfeed⟩

theorem readLexeme_paren (f : Flags) :
    readLexeme f '(' = skipBlanks f >>= fun _ => readGroup :=
  readLexeme_eq_readMark (by decide) f

theorem readLexeme_bracket (f : Flags) :
    readLexeme f '[' = readBracket f >>= fun m => pure (.char m.cls m.depth) :=
  readLexeme_eq_readMark (by decide) f

theorem readLexeme_backslash (f : Flags) :
    readLexeme f '\\' = readEscape f >>= escapeLexeme f :=
  readLexeme_eq_readMark (by decide) f

/-! ## Groups -/

theorem sealed_readSetting : Sealed readSetting := by
  refine .after (fun fs => sealed_next fun c => .inl ?_) (local_readFlags lookahead_sameHead)
  exact Idle.ite (idle_pure _) (Idle.ite (idle_fail_bind _ _) (idle_pure _))

theorem sealed_readNamed : Sealed readNamed := by
  intro cs l rest h
  obtain ⟨name, mid, hname, h⟩ := exists_of_run_bind h
  cases h
  obtain ⟨u, hne, rfl, hu⟩ := sealed_readGroupName hname
  exact ⟨u, hne, rfl, fun ys => by rw [readNamed, run_bind, hu]; rfl⟩

theorem run_readGroup_named (cs : List Char) :
    readGroup.run ('?' :: 'P' :: '<' :: cs) = readNamed.run cs := by
  rw [readGroup, run_bind, run_ahead]
  change (skip 3 >>= fun _ => readNamed).run _ = _
  rw [run_bind, run_skip]
  rfl

theorem run_readGroup_angle {c : Char} (h : c ≠ '=') (h' : c ≠ '!') (cs : List Char) :
    readGroup.run ('?' :: '<' :: c :: cs) = readNamed.run (c :: cs) := by
  rw [readGroup, run_bind, run_ahead]
  dsimp only
  split
  case h_6 =>
    rename_i heq
    cases heq
    rw [run_bind, run_skip]
    rfl
  case h_7 hangle heq => exact absurd (List.cons.inj heq).2.symm (hangle _)
  all_goals simp_all

theorem run_readGroup_setting {c : Char} (h : c ∉ ['=', '!', '<', 'P']) (cs : List Char) :
    readGroup.run ('?' :: c :: cs) = readSetting.run (c :: cs) := by
  rw [readGroup, run_bind, run_ahead]
  dsimp only
  split <;> simp_all

theorem run_readGroup_plain {cs : List Char} (h : cs.head? ≠ some '?') :
    readGroup.run cs = .ok (.capture none, cs) := by
  rw [readGroup, run_bind, run_ahead]
  dsimp only
  split <;> simp_all

/-- A change of flags does not begin like the name of a group. -/
theorem not_mem_of_run_readSetting {c : Char} {cs rest : List Char} {l : Lexeme}
    (h : readSetting.run (c :: cs) = .ok (l, rest)) : c ∉ ['=', '!', '<', 'P'] := by
  intro hc
  obtain ⟨_, _, h, -⟩ := exists_of_run_bind h
  obtain ⟨_, _, h, -⟩ := exists_of_run_bind h
  simp only [List.mem_cons, List.not_mem_nil, or_false] at hc
  rcases hc with rfl | rfl | rfl | rfl
  all_goals
    rw [run_repeatWhile_of (by decide)] at h
    cases h

/-- How a group begins. -/
theorem run_readGroup_inv {cs rest : List Char} {l : Lexeme}
    (h : readGroup.run cs = .ok (l, rest)) :
    (l = .capture none ∧ rest = cs ∧ cs.head? ≠ some '?') ∨
    (∃ tail, cs = '?' :: 'P' :: '<' :: tail ∧ readNamed.run tail = .ok (l, rest)) ∨
    (∃ c tail, cs = '?' :: '<' :: c :: tail ∧ c ≠ '=' ∧ c ≠ '!' ∧
      readNamed.run (c :: tail) = .ok (l, rest)) ∨
    ∃ c tail, cs = '?' :: c :: tail ∧ c ∉ ['=', '!', '<', 'P'] ∧
      readSetting.run (c :: tail) = .ok (l, rest) := by
  have hrun := h
  rw [readGroup, run_bind, run_ahead] at h
  dsimp only at h
  split at h
  case h_5 tail =>
    rw [run_readGroup_named] at hrun
    exact .inr (.inl ⟨tail, rfl, hrun⟩)
  case h_6 tail hequals hbang =>
    rw [run_bind, run_skip] at h
    obtain ⟨u, hu, hcs, -⟩ := sealed_readNamed h
    obtain ⟨c, u, rfl⟩ := List.exists_cons_of_ne_nil hu
    obtain rfl : tail = c :: (u ++ rest) := hcs
    refine .inr (.inr (.inl ⟨c, _, rfl, ?_, ?_, h⟩))
    · rintro rfl
      exact hequals _ rfl
    · rintro rfl
      exact hbang _ rfl
  case h_7 tail _ _ _ _ _ _ =>
    rw [run_bind, run_skip] at h
    obtain ⟨u, hu, hcs, -⟩ := sealed_readSetting h
    obtain ⟨c, u, rfl⟩ := List.exists_cons_of_ne_nil hu
    obtain rfl : tail = c :: (u ++ rest) := hcs
    exact .inr (.inr (.inr ⟨c, _, rfl, not_mem_of_run_readSetting h, h⟩))
  case h_8 hplain =>
    cases h
    refine .inl ⟨rfl, rfl, fun hhead => ?_⟩
    obtain ⟨tail, rfl⟩ := List.head?_eq_some_iff.mp hhead
    exact hplain tail rfl
  all_goals cases h

/-- A group is a capture without a name and nothing is taken, or it has an end of its own. -/
theorem run_readGroup_cases {cs rest : List Char} {l : Lexeme}
    (h : readGroup.run cs = .ok (l, rest)) :
    (l = .capture none ∧ rest = cs ∧ cs.head? ≠ some '?') ∨
      ∃ u, u.head? = some '?' ∧ cs = u ++ rest ∧ ∀ ys, readGroup.run (u ++ ys) = .ok (l, ys) := by
  rcases run_readGroup_inv h with hplain | ⟨tail, rfl, hnamed⟩ | ⟨c, tail, rfl, hc, hc', hnamed⟩ |
    ⟨c, tail, rfl, hc, hset⟩
  · exact .inl hplain
  · obtain ⟨u, -, rfl, hu⟩ := sealed_readNamed hnamed
    exact .inr ⟨'?' :: 'P' :: '<' :: u, rfl, rfl, fun ys => (run_readGroup_named _).trans (hu ys)⟩
  · obtain ⟨u, hu, hcs, hall⟩ := sealed_readNamed hnamed
    obtain ⟨d, u, rfl⟩ := List.exists_cons_of_ne_nil hu
    obtain ⟨rfl, rfl⟩ := List.cons.inj hcs
    exact .inr ⟨'?' :: '<' :: c :: u, rfl, rfl, fun ys =>
      (run_readGroup_angle hc hc' _).trans (hall ys)⟩
  · obtain ⟨u, hu, hcs, hall⟩ := sealed_readSetting hset
    obtain ⟨d, u, rfl⟩ := List.exists_cons_of_ne_nil hu
    obtain ⟨rfl, rfl⟩ := List.cons.inj hcs
    exact .inr ⟨'?' :: c :: u, rfl, rfl, fun ys => (run_readGroup_setting hc _).trans (hall ys)⟩

variable {f : Flags} {ρ : List Char → List Char → Prop}

theorem local_readGroup (hρ : Lookahead ρ) : Local ρ readGroup := by
  intro l cs rest h
  rcases run_readGroup_cases h with ⟨rfl, rfl, hhead⟩ | ⟨u, -, rfl, hu⟩
  · exact ⟨[], rfl, fun ys hy => run_readGroup_plain (hρ.head_eq hy ▸ hhead)⟩
  · exact ⟨u, rfl, fun ys _ => hu ys⟩

theorem stopsAt_readGroup : StopsAt ')' readGroup := by
  intro cs l h
  rcases run_readGroup_cases h with ⟨rfl, rfl, -⟩ | ⟨u, -, rfl, hu⟩
  · exact .inl fun ys => run_readGroup_plain (by simp)
  · rw [List.append_nil]
    exact .inl fun ys => hu (')' :: ys)

/-! ## Lexemes -/

theorem idle_literal (c : Char) (byte : Bool) : Idle (literal f c byte) :=
  Idle.ite (idle_pure _) (Idle.ite (idle_fail _) (idle_pure _))

theorem idle_escapeLexeme (a : Atom) : Idle (escapeLexeme f a) := by
  cases a with
  | char c byte => exact .bind (idle_literal c byte) fun _ => idle_pure _
  | set | look => exact idle_pure _

theorem localAt_escape {l : Lexeme}
    (hl : (∀ e, l ≠ .look e) ∨ ∀ r ys, ρ r ys → SameEdge f r ys)
    (hρ : ∀ r ys, ρ r ys → SameHead r ys) : LocalAt ρ (readEscape f >>= escapeLexeme f) l := by
  rcases hl with hl | hl
  · have hlook (a : Atom) (h : ∃ cs rest, (escapeLexeme f a).run cs = .ok (l, rest)) (e : Look) :
        a ≠ .look e := by
      rintro rfl
      obtain ⟨cs, rest, h⟩ := h
      cases h
      exact hl e rfl
    have hlocal : LocalAt SameHead (readEscape f >>= escapeLexeme f) l :=
      .bind lookahead_sameHead (fun a ha => localAt_readEscape lookahead_sameHead (hlook a ha))
        fun a => (idle_escapeLexeme a).isLocal l
    exact hlocal.mono hρ
  · exact (local_readEscape.bind_idle idle_escapeLexeme).mono hl l

/-- A lexeme is found with one character of what follows, apart from a brace behind a word edge. -/
theorem localAt_readLexeme (c : Char) {l : Lexeme}
    (hl : (∀ e, l ≠ .look e) ∨ ∀ r ys, ρ r ys → SameEdge f r ys)
    (hρ : ∀ r ys, ρ r ys → SameHead r ys) : LocalAt ρ (readLexeme f c) l := by
  have hhead := lookahead_sameHead
  have hblanks := local_skipBlanks (f := f) hhead
  have hlazy : Local SameHead (skipText "?" : Read Bool) := local_skipText hhead rfl
  have hsame {p : Read Lexeme} (hp : Local SameHead p) : LocalAt ρ p l := (hp l).mono hρ
  unfold readLexeme
  split
  · exact local_pure _ l
  · split
    · exact hsame (.bind hhead (local_skipWhile hhead _) fun _ => local_pure _)
    · unfold readMark
      split
      · exact hsame (.bind hhead hblanks fun _ => local_readGroup hhead)
      · exact local_pure _ l
      · exact local_pure _ l
      · exact hsame (.bind hhead sealed_readBracket.isLocal fun _ => local_pure _)
      · exact hsame (.bind hhead hlazy fun _ => local_pure _)
      · exact hsame (.bind hhead hlazy fun _ => local_pure _)
      · exact hsame (.bind hhead hlazy fun _ => local_pure _)
      · exact hsame (.bind hhead sealed_readCounts.isLocal fun _ => .bind hhead hblanks fun _ =>
          .bind hhead hlazy fun _ => local_pure _)
      · exact localAt_escape hl hρ
      · exact (Idle.ite (idle_pure _) (idle_fail _)).isLocal l
      · exact local_pure _ l
      · exact local_pure _ l
      · exact (Idle.bind (idle_literal c false) fun _ => idle_pure _).isLocal l

theorem local_readLexeme (c : Char) : Local (SameEdge f) (readLexeme f c) := fun _ =>
  localAt_readLexeme c (.inr fun _ _ h => h) fun _ _ h => h.1

theorem stopsAt_readLexeme (c : Char) : StopsAt ')' (readLexeme f c) := by
  have hblanks := local_skipBlanks (f := f) lookahead_extension
  have hlocal : Local Extension (skipText "?" : Read Bool) := local_skipText lookahead_extension rfl
  have hlazy : StopsAt ')' (skipText "?" : Read Bool) := stopsAt_skipText rfl (by decide)
  unfold readLexeme
  split
  · exact stopsAt_pure _
  · split
    · exact .bind (local_skipWhile lookahead_extension _) (stopsAt_skipWhile _) fun _ =>
        stopsAt_pure _
    · unfold readMark
      split
      · exact .bind hblanks stopsAt_skipBlanks fun _ => stopsAt_readGroup
      · exact stopsAt_pure _
      · exact stopsAt_pure _
      · exact .bind sealed_readBracket.isLocal sealed_readBracket.stopsAt fun _ => stopsAt_pure _
      · exact .bind hlocal hlazy fun _ => stopsAt_pure _
      · exact .bind hlocal hlazy fun _ => stopsAt_pure _
      · exact .bind hlocal hlazy fun _ => stopsAt_pure _
      · exact .bind sealed_readCounts.isLocal sealed_readCounts.stopsAt fun _ =>
          .bind hblanks stopsAt_skipBlanks fun _ => .bind hlocal hlazy fun _ => stopsAt_pure _
      · exact .bind (local_readEscape.mono fun _ _ => sameEdge_of_extension)
          stopsAt_readEscape fun a => (idle_escapeLexeme a).stopsAt
      · exact (Idle.ite (idle_pure _) (idle_fail _)).stopsAt
      · exact stopsAt_pure _
      · exact stopsAt_pure _
      · exact (Idle.bind (idle_literal c false) fun _ => idle_pure _).stopsAt

end PathRoute.Regex
