import PathRoute.Proofs.Regex.Similar
import PathRoute.Proofs.Requirement.Classes

/-!
# Requirements without captures

The rewriting goes over a requirement with nothing but a bit that tells whether it is in a class.
Where that is enough to copy the classes in which others open, and under the verbose flag the blanks
and comments, the rewritten requirement is read lexeme by lexeme like the written one
(`exists_feed_dropCaptures`), and so it matches the same texts.
-/

namespace PathRoute

open Regex Reader

namespace Requirement

attribute [local instance] Reader.lawfulMonad

/-- What has been taken of a text when there is still a rest. -/
def taken (cs rest : List Char) : List Char := cs.take (cs.length - rest.length)

/-- The rewriting of a text that begins with a lexeme: a capture becomes a group without one, all
else is copied, also the blanks behind a parenthesis, and what follows is rewritten by itself. -/
def follows (l : Lexeme) (cs rest : List Char) : Bool :=
  match l with
  | .capture (some _) => dropCaptures false cs == opening ++ dropCaptures false rest
  | .capture none =>
    dropCaptures false cs == opening ++ (taken cs rest).drop 1 ++ dropCaptures false rest
  | _ => dropCaptures false cs == taken cs rest ++ dropCaptures false rest

variable {f : Flags} {c : Char} {u cs rest : List Char} {l : Lexeme}

@[simp] theorem taken_append (u rest : List Char) : taken (u ++ rest) rest = u := by
  rw [taken, List.length_append, Nat.add_sub_cancel, List.take_left]

@[simp] theorem taken_cons_append (c : Char) (u rest : List Char) :
    taken (c :: (u ++ rest)) rest = c :: u := taken_append (c :: u) rest

theorem follows_named_iff {name : List Char} :
    follows (.capture (some name)) cs rest = true ↔
      dropCaptures false cs = opening ++ dropCaptures false rest := by
  simp [follows]

theorem follows_capture_iff :
    follows (.capture none) (c :: (u ++ rest)) rest = true ↔
      dropCaptures false (c :: (u ++ rest)) = opening ++ (u ++ dropCaptures false rest) := by
  simp only [follows, taken_cons_append, List.drop_one, List.tail_cons, List.append_assoc,
    beq_iff_eq]

theorem follows_iff (hl : ∀ name, l ≠ .capture name) :
    follows l (u ++ rest) rest = true ↔
      dropCaptures false (u ++ rest) = u ++ dropCaptures false rest := by
  cases l with
  | capture name => exact absurd rfl (hl name)
  | _ => simp [follows]

/-- Whatever a parenthesis opens, the rewriting knows it. -/
theorem follows_group (h : readGroup.run cs = .ok (l, rest)) :
    follows l ('(' :: cs) rest = true := by
  rcases run_readGroup_inv h with ⟨rfl, rfl, hhead⟩ | ⟨tail, rfl, hnamed⟩ |
    ⟨c, tail, rfl, hc, hc', hnamed⟩ | ⟨c, tail, rfl, hc, hset⟩
  · exact (follows_capture_iff (u := [])).mpr (dropCaptures_capture hhead)
  · obtain ⟨rfl, name, rfl⟩ := afterName_of_run_readNamed hnamed
    rw [follows_named_iff, dropCaptures_named rfl rfl]
    rfl
  · obtain ⟨hrest, name, rfl⟩ := afterName_of_run_readNamed hnamed
    have hopens : opensNamed ('?' :: '<' :: c :: tail) = true := by simp [opensNamed, hc, hc']
    have hafter : afterName ('?' :: '<' :: c :: tail) = rest := hrest
    rw [follows_named_iff, dropCaptures_named rfl hopens, hafter]
  · obtain ⟨⟨u, hu, hplain⟩, hl⟩ := plain_of_run_readSetting hset
    have hopens : opensNamed ('?' :: c :: tail) = false := by
      unfold opensNamed
      split <;> simp_all
    have hparen : '(' :: '?' :: c :: tail = ('(' :: '?' :: u) ++ rest := by rw [hu]; rfl
    rw [hparen, follows_iff hl, ← hparen, dropCaptures_group rfl hopens, hu]
    exact congrArg _ (dropCaptures_append (List.forall_mem_cons.mpr ⟨by decide, hplain⟩) rest)

theorem ne_capture_of_run_bind {α : Type} {p : Read α} {k : α → Lexeme}
    (hk : ∀ a name, k a ≠ .capture name) (h : (p >>= fun a => pure (k a)).run cs = .ok (l, rest)) :
    ∀ name, l ≠ .capture name := by
  obtain ⟨a, mid, -, hpure⟩ := exists_of_run_bind h
  cases hpure
  exact hk a

theorem ne_capture_of_run_escapeLexeme {a : Atom}
    (h : (escapeLexeme f a).run cs = .ok (l, rest)) : ∀ name, l ≠ .capture name := by
  cases a with
  | char c byte => exact ne_capture_of_run_bind (by simp) h
  | set | look =>
    cases h
    simp

/-- Only a parenthesis opens a capture. -/
theorem ne_capture_of_run_readLexeme (hc : c ≠ '(') (h : (readLexeme f c).run cs = .ok (l, rest)) :
    ∀ name, l ≠ .capture name := by
  have hpure {l' : Lexeme} (hl : ∀ name, l' ≠ .capture name)
      (h : (pure l' : Read Lexeme).run cs = .ok (l, rest)) : ∀ name, l ≠ .capture name := by
    cases h
    exact hl
  unfold readLexeme at h
  split at h
  · exact hpure (by simp) h
  · split at h
    · exact ne_capture_of_run_bind (by simp) h
    · unfold readMark at h
      split at h
      · exact absurd rfl hc
      · exact hpure (by simp) h
      · exact hpure (by simp) h
      · exact ne_capture_of_run_bind (by simp) h
      · exact ne_capture_of_run_bind (by simp) h
      · exact ne_capture_of_run_bind (by simp) h
      · exact ne_capture_of_run_bind (by simp) h
      · obtain ⟨_, _, -, h⟩ := exists_of_run_bind h
        obtain ⟨_, _, -, h⟩ := exists_of_run_bind h
        exact ne_capture_of_run_bind (by simp) h
      · obtain ⟨_, _, -, h⟩ := exists_of_run_bind h
        exact ne_capture_of_run_escapeLexeme h
      · split at h
        · exact hpure (by simp) h
        · cases h
      · exact hpure (by simp) h
      · exact hpure (by simp) h
      · exact ne_capture_of_run_bind (by simp) h

/-- Without the verbose flag the rewriting follows every lexeme but a class in which another bracket
opens. -/
theorem follows_of_run_readLexeme (hf : f.verbose = false) (hc : c = '[' → '[' ∉ taken cs rest)
    (h : (readLexeme f c).run cs = .ok (l, rest)) : follows l (c :: cs) rest = true := by
  by_cases hparen : c = '('
  · subst hparen
    rw [readLexeme_paren, skipBlanks_eq hf, pure_bind] at h
    exact follows_group h
  have hl := ne_capture_of_run_readLexeme hparen h
  by_cases hback : c = '\\'
  · subst hback
    rw [readLexeme_backslash] at h
    obtain ⟨a, mid, hescape, hatom⟩ := exists_of_run_bind h
    obtain ⟨rfl, -⟩ := (idle_escapeLexeme a).run hatom
    obtain ⟨d, u, rfl, hu⟩ := plain_of_run_readEscape hf hescape
    rw [← List.cons_append, ← List.cons_append, follows_iff hl]
    simp only [List.cons_append, dropCaptures_escape, dropCaptures_append hu]
  by_cases hbracket : c = '['
  · subst hbracket
    rw [readLexeme_bracket] at h
    obtain ⟨m, mid, hclass, hpure⟩ := exists_of_run_bind h
    obtain ⟨rfl, -⟩ := (idle_pure (Lexeme.char m.cls m.depth)).run hpure
    obtain ⟨u, -, rfl, -⟩ := sealed_readBracket hclass
    rw [taken_append] at hc
    rw [← List.cons_append, follows_iff hl]
    exact dropCaptures_of_readBracket hf hclass (hc rfl)
  · have hmark : c ∉ ['\\', '[', '('] := by simp [hparen, hback, hbracket]
    obtain ⟨u, rfl, hu⟩ := takes_readLexeme hf hmark l h
    rw [← List.cons_append, follows_iff hl, List.cons_append, List.cons_append,
      dropCaptures_outside hmark, dropCaptures_append hu]

/-! ## The whole requirement -/

/-- Where the rewriting may lose track of a lexeme: under the verbose flag, which allows blanks and
comments, and at a class in which another bracket opens. -/
def needsCheck (f : Flags) (c : Char) (taken : List Char) : Bool :=
  f.verbose || c == '[' && taken.contains '['

/-- From a state on the rewriting follows every lexeme of which it may lose track. -/
def inStep (s : ParseState) : List Char → Bool
  | [] => true
  | c :: cs =>
    match _h : (readLexeme s.flags c).run cs with
    | .error _ => false
    | .ok (l, rest) =>
      (!needsCheck s.flags c (taken cs rest) || follows l (c :: cs) rest) &&
        match (l.apply s).run rest with
        | .error _ => false
        | .ok (s', _) => inStep s' rest
termination_by cs => cs.length
decreasing_by
  have := length_le_of_run _h
  simp only [List.length_cons]
  omega

variable {s s' t fin : ParseState}

theorem inStep_cons (hl : (readLexeme s.flags c).run cs = .ok (l, rest))
    (hs : (l.apply s).run rest = .ok (s', rest)) (h : inStep s (c :: cs) = true) :
    follows l (c :: cs) rest = true ∧ inStep s' rest = true := by
  rw [inStep] at h
  split at h
  · cases h
  · rename_i hl'
    obtain ⟨rfl, rfl⟩ := Prod.mk.inj (Except.ok.inj (hl.symm.trans hl'))
    rw [hs, Bool.and_eq_true] at h
    refine ⟨?_, h.2⟩
    cases hcheck : needsCheck s.flags c (taken cs rest) with
    | true => simpa [hcheck] using h.1
    | false =>
      obtain ⟨hverbose, hclass⟩ := Bool.or_eq_false_iff.mp hcheck
      exact follows_of_run_readLexeme hverbose (by rintro rfl; simpa using hclass) hl

/-- Behind a brace a repetition is read, which takes more than the blanks. -/
theorem length_lt_of_run_brace {mid : List Char} (h : (readLexeme f '{').run cs = .ok (l, rest))
    (hblanks : (skipBlanks f).run cs = .ok ((), mid)) : rest.length < mid.length := by
  rw [readLexeme_eq_readMark (by decide)] at h
  obtain ⟨counts, behind, hcounts, h⟩ := exists_of_run_bind h
  have hlast := length_le_of_run h
  obtain ⟨_, front, hfront, hcounts⟩ := exists_of_run_bind hcounts
  obtain rfl : front = mid := congrArg Prod.snd (Except.ok.inj (hfront.symm.trans hblanks))
  obtain ⟨least, left, hleast, hcounts⟩ := exists_of_run_bind hcounts
  cases left with
  | nil => cases hcounts
  | cons d left =>
    rw [run_bind, run_next_cons] at hcounts
    have hfirst := length_le_of_run hleast
    have hsecond := length_le_of_run hcounts
    rw [List.length_cons] at hfirst
    omega

/-- Where reading goes on in step, the rewriting keeps what a word edge looks at. -/
theorem sameEdge_dropCaptures (h : feed s cs = .ok fin) (hin : inStep s cs = true) :
    SameEdge s.flags cs (dropCaptures false cs) := by
  refine ⟨(head_dropCaptures cs).symm, ?_⟩
  rintro r ys rfl hys c tail hblanks
  obtain ⟨l, rest, s', hl, hs, -⟩ := exists_lexeme_of_feed h
  obtain ⟨hfollows, -⟩ := inStep_cons hl hs hin
  have hcapture := ne_capture_of_run_readLexeme (by decide) hl
  have hlt := length_lt_of_run_brace hl hblanks
  obtain ⟨u, rfl, -⟩ := local_readLexeme '{' l hl
  obtain ⟨v, hv, hall⟩ := local_skipBlanks lookahead_sameHead () hblanks
  rcases List.append_eq_append_iff.mp hv with ⟨w, rfl, hw⟩ | ⟨w, rfl, hw⟩
  · rw [hw, List.length_append] at hlt
    omega
  · cases w with
    | nil =>
      rw [hw] at hlt
      exact absurd hlt (Nat.lt_irrefl _)
    | cons d w =>
      obtain ⟨rfl, rfl⟩ := List.cons.inj hw
      -- what is read for the repetition is copied, with the blanks in front of it
      rw [← List.cons_append, follows_iff hcapture] at hfollows
      obtain rfl : ys = v ++ c :: (w ++ dropCaptures false rest) := by
        simpa using (List.cons.inj (hys.symm.trans hfollows)).2
      exact ⟨_, hall rfl⟩

/-- Before the rewritten rest the same lexeme is read. -/
theorem exists_run_readLexeme (hl : (readLexeme s.flags c).run cs = .ok (l, rest))
    (hs : (l.apply s).run rest = .ok (s', rest)) (h : feed s' rest = .ok fin)
    (hin : inStep s' rest = true) :
    ∃ u, cs = u ++ rest ∧
      (readLexeme s.flags c).run (u ++ dropCaptures false rest) =
        .ok (l, dropCaptures false rest) := by
  by_cases hlook : ∃ e, l = .look e
  · obtain ⟨e, rfl⟩ := hlook
    cases hs
    obtain ⟨u, rfl, hu⟩ := local_readLexeme c _ hl
    have hedge := sameEdge_dropCaptures h hin
    exact ⟨u, rfl, hu hedge⟩
  · obtain ⟨u, rfl, hu⟩ := localAt_readLexeme c (.inl fun e he => hlook ⟨e, he⟩)
      (fun _ _ h => h) hl
    exact ⟨u, rfl, hu (head_dropCaptures rest).symm⟩

theorem run_readLexeme_opening (f : Flags) (cs : List Char) :
    (readLexeme f '(').run ('?' :: ':' :: cs) = .ok (.group {}, cs) := by
  have hblank : (isBlank '?' || '?' == '#') = false := by decide
  have hblanks : (skipBlanks f).run ('?' :: ':' :: cs) = .ok ((), '?' :: ':' :: cs) := by
    unfold skipBlanks
    split
    · rw [run_bind, run_repeatWhile_of_not (by simpa using hblank)]
      rfl
    · rfl
  rw [readLexeme_paren, run_bind, hblanks]
  dsimp only
  rw [run_readGroup_setting (by decide), readSetting, run_bind, readFlags, run_bind,
    run_repeatWhile_of_not (by simp)]
  rfl

/-- In front of a capture without a name there are only blanks. -/
theorem run_skipBlanks_of_capture (h : (readLexeme f c).run cs = .ok (.capture none, rest)) :
    (skipBlanks f).run cs = .ok ((), rest) := by
  by_cases hc : c = '('
  · subst hc
    rw [readLexeme_paren] at h
    obtain ⟨_, mid, hblanks, hgroup⟩ := exists_of_run_bind h
    rcases run_readGroup_inv hgroup with ⟨-, rfl, -⟩ | ⟨tail, -, hnamed⟩ |
      ⟨d, tail, -, -, -, hnamed⟩ | ⟨d, tail, -, -, hset⟩
    · exact hblanks
    · obtain ⟨-, name, hname⟩ := afterName_of_run_readNamed hnamed
      cases hname
    · obtain ⟨-, name, hname⟩ := afterName_of_run_readNamed hnamed
      cases hname
    · exact absurd rfl ((plain_of_run_readSetting hset).2 none)
  · exact absurd rfl (ne_capture_of_run_readLexeme hc h none)

theorem feed_blank (hverbose : s.flags.verbose = true) (hc : isBlank c = true) (cs : List Char) :
    feed s (c :: cs) = feed s cs := by
  refine feed_of_lexeme (l := .blank) ?_ rfl
  simp [readLexeme, hverbose, hc]

theorem feed_comment (hverbose : s.flags.verbose = true) (cs : List Char) :
    feed s ('#' :: cs) = feed s (cs.dropWhile (· != '\n')) := by
  have hnote : isBlank '#' = false := by decide
  refine feed_of_lexeme (l := .blank) ?_ rfl
  unfold readLexeme
  rw [hverbose, hnote]
  rfl

/-- Blanks and comments change nothing. -/
theorem feed_eq_of_run_skipBlanks (h : (skipBlanks s.flags).run cs = .ok ((), rest)) :
    feed s cs = feed s rest := by
  unfold skipBlanks at h
  split at h
  case isFalse =>
    cases h
    rfl
  rename_i hverbose
  obtain ⟨note, mid, hloop, h⟩ := exists_of_run_bind h
  cases h
  have hnote : isBlank '#' = false := by decide
  -- within a comment the text goes on behind its line
  refine (run_repeatWhile_induction (motive := fun note cs _ rest =>
      (note = false → feed s cs = feed s rest) ∧
      (note = true → feed s (cs.dropWhile (· != '\n')) = feed s rest))
    (fun note cs hstop => ?_) (fun note c cs note' mid t rest hc hrun _ ih => ?_) hloop).1 rfl
  · refine ⟨fun _ => rfl, ?_⟩
    rintro rfl
    cases cs with
    | nil => rfl
    | cons c cs => exact absurd (Bool.true_or _) (hstop c rfl)
  · cases hrun
    obtain ⟨hout, hin⟩ := ih
    refine ⟨?_, ?_⟩
    · rintro rfl
      by_cases hc' : isBlank c = true
      · have hne : (c == '#') = false := by
          rw [beq_eq_false_iff_ne]
          rintro rfl
          rw [hnote] at hc'
          cases hc'
        rw [feed_blank hverbose hc']
        exact hout hne
      · obtain rfl : c = '#' := by simpa [hc'] using hc
        rw [feed_comment hverbose]
        exact hin rfl
    · rintro rfl
      by_cases hline : c = '\n'
      · subst hline
        have hnew : isBlank '\n' = true := by decide
        rw [List.dropWhile_cons_of_neg (by simp), feed_blank hverbose hnew]
        exact hout rfl
      · have hne : (c != '\n') = true := by simpa using hline
        rw [List.dropWhile_cons_of_pos (p := fun c => c != '\n') hne]
        exact hin hne

/-- In step with the reading, the rewritten text is read like the written one, without captures. -/
theorem exists_feed_dropCaptures (h : feed s cs = .ok fin) (hin : inStep s cs = true)
    (hsim : ParseState.Similar 0 [] s t) (ht : t.groups = 0) :
    ∃ fin', feed t (dropCaptures false cs) = .ok fin' ∧ ParseState.Similar 0 [] fin fin' ∧
      fin'.groups = 0 := by
  induction hn : cs.length using Nat.strongRecOn generalizing s t cs with
  | ind n ih =>
    cases cs with
    | nil =>
      obtain rfl := Except.ok.inj ((feed_nil s).symm.trans h)
      rw [dropCaptures_nil]
      exact ⟨t, feed_nil t, hsim, ht⟩
    | cons c cs =>
      obtain ⟨l, rest, s', hl, hs, hfeed⟩ := exists_lexeme_of_feed h
      obtain ⟨hfollows, hin'⟩ := inStep_cons hl hs hin
      have hlen : rest.length < n := by
        have := length_le_of_run hl
        rw [← hn, List.length_cons]
        omega
      by_cases hcapture : ∃ name, l = .capture name
      · obtain ⟨name, rfl⟩ := hcapture
        obtain ⟨t', ht', hsim', -, hgroups⟩ :=
          hsim.apply hs (.uncaptured name) (by simp) (dropCaptures false rest)
        obtain ⟨fin', hfin', hfin⟩ :=
          ih rest.length hlen hfeed hin' hsim' ((hgroups (by simp)).trans ht) rfl
        refine ⟨fin', ?_, hfin⟩
        cases name with
        | some name =>
          rw [follows_named_iff.mp hfollows, ← hfin']
          exact feed_of_lexeme (run_readLexeme_opening _ _) ht'
        | none =>
          obtain ⟨u, rfl, hu⟩ :=
            local_skipBlanks lookahead_sameHead () (run_skipBlanks_of_capture hl)
          cases ht'
          have hblanks := hsim.flags_eq ▸ hu (head_dropCaptures (b := false) rest).symm
          rw [follows_capture_iff.mp hfollows, ← hfin']
          exact (feed_of_lexeme (run_readLexeme_opening _ _) rfl).trans
            (feed_eq_of_run_skipBlanks hblanks)
      · have hl' : ∀ name, l ≠ .capture name := fun name h => hcapture ⟨name, h⟩
        obtain ⟨t', ht', hsim', -, hgroups⟩ :=
          hsim.apply hs (.same l) (fun name h => absurd h (hl' _)) (dropCaptures false rest)
        obtain ⟨fin', hfin', hfin⟩ :=
          ih rest.length hlen hfeed hin' hsim' ((hgroups hl').trans ht) rfl
        refine ⟨fin', ?_, hfin⟩
        obtain ⟨u, rfl, hu⟩ := exists_run_readLexeme hl hs hfeed hin'
        rw [← List.cons_append, follows_iff hl'] at hfollows
        rw [← List.cons_append, hfollows, ← hfin', List.cons_append]
        exact feed_of_lexeme (hsim.flags_eq ▸ hu) ht'

/-- A requirement that the rewriting goes through in step is an expression without captures
afterwards, and matches the same texts as before. -/
theorem exists_parse_withoutCaptures {text : String} {a : Regex} (ha : parse text = .ok a)
    (hin : inStep {} text.toList = true) :
    ∃ b, parse (withoutCaptures text) = .ok b ∧ b.groupCount = 0 ∧
      ∀ target, b.matchesWhole target = a.matchesWhole target := by
  rw [parse_eq] at ha
  cases hfeed : feed {} text.toList with
  | error e =>
    rw [hfeed] at ha
    cases ha
  | ok fin =>
    rw [hfeed] at ha
    have hstart : ParseState.Similar 0 [] {} {} := ⟨rfl, .empty, ⟨[], rfl, .nil⟩, Nat.le_refl _⟩
    obtain ⟨fin', hfeed', hsim, hgroups⟩ := exists_feed_dropCaptures hfeed hin hstart rfl
    obtain ⟨b, hb, herase, hfresh⟩ := hsim.finish ha
    refine ⟨b, ?_, groupCount_eq_zero ?_, matchesWhole_congr herase⟩
    · rw [parse_eq, withoutCaptures, String.toList_ofList, hfeed']
      exact hb
    · rw [hgroups] at hfresh
      refine List.eq_nil_iff_forall_not_mem.mpr fun g hg => ?_
      have := hfresh g hg
      omega

/-- Classes in classes, a closing bracket that stands first, a name, and blanks under the verbose
flag need not be in the way. -/
theorem exists_parse_withoutCaptures_word :
    withoutCaptures "(?<word>[[:alpha:]_]+)(\\.[^](]*|(?x: ( b ) ))" =
        "(?:[[:alpha:]_]+)(?:\\.[^](]*|(?x: (?: b ) ))" ∧
      ∃ a b, parse "(?<word>[[:alpha:]_]+)(\\.[^](]*|(?x: ( b ) ))" = .ok a ∧
        parse (withoutCaptures "(?<word>[[:alpha:]_]+)(\\.[^](]*|(?x: ( b ) ))") = .ok b ∧
        b.groupCount = 0 ∧ ∀ target, b.matchesWhole target = a.matchesWhole target := by
  have : ∃ a, parse "(?<word>[[:alpha:]_]+)(\\.[^](]*|(?x: ( b ) ))" = .ok a ∧
      inStep {} "(?<word>[[:alpha:]_]+)(\\.[^](]*|(?x: ( b ) ))".toList = true := by
    decide +kernel
  obtain ⟨a, ha, hin⟩ := this
  refine ⟨by decide +kernel, a, ?_⟩
  obtain ⟨b, hb, hall⟩ := exists_parse_withoutCaptures ha hin
  exact ⟨b, ha, hb, hall⟩

/-- A class within a class ends the outer one too early for the rewriting: a parenthesis that is a
member is taken for a capture, and two more characters become members. -/
theorem exists_parse_withoutCaptures_nested :
    withoutCaptures "[[:alpha:](]" = "[[:alpha:](?:]" ∧
      ∃ a, parse "[[:alpha:](]" = .ok a ∧ a.matchesWhole "?".toList = false ∧
        ∃ b, parse (withoutCaptures "[[:alpha:](]") = .ok b ∧
          b.matchesWhole "?".toList = true := by
  decide +kernel

end Requirement

end PathRoute
