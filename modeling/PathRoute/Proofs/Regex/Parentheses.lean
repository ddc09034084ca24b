import PathRoute.Proofs.Regex.Similar

/-!
# Expressions in parentheses

An expression that is read on its own is read in the same way in parentheses, with its groups
numbered after the one that the parentheses open: `feed_parenthesized`. It must not end in a
comment, which under the verbose flag goes on behind the parenthesis up to the end of the line.
-/

namespace PathRoute.Regex

open Reader

/-- A name that a reading takes up was not taken before. -/
theorem not_mem_of_apply {s s' : ParseState} {l : Lexeme} {cs rest : List Char}
    (h : (l.apply s).run cs = .ok (s', rest)) (name : List Char)
    (hl : l = .capture (some name)) : name ∉ s.names := by
  subst hl
  simp only [Lexeme.apply] at h
  split at h <;> rename_i hnew
  · cases h
  · simpa using hnew

variable {s fin : ParseState} {cs : List Char}

/-- A text goes on in the same way within parentheses, up to the parenthesis that closes them; or
else it ends in a comment, which takes that parenthesis as well. -/
theorem feed_within (h : feed s cs = .ok fin) :
    (∀ {lo base t ds fin'}, ParseState.Similar lo base s t → feed t (cs ++ ')' :: ds) = .ok fin' →
      ∃ t', ParseState.Similar lo base fin t' ∧ feed t' (')' :: ds) = .ok fin' ∧
        t.groups ≤ t'.groups) ∨
    (∀ {lo base t fin'}, ParseState.Similar lo base s t → feed t (cs ++ [')']) = .ok fin' →
      ParseState.Similar lo base fin fin') := by
  induction hn : cs.length using Nat.strongRecOn generalizing s cs with
  | ind n ih =>
    cases cs with
    | nil =>
      obtain rfl := Except.ok.inj ((feed_nil s).symm.trans h)
      exact .inl fun hsim hfin => ⟨_, hsim, hfin, Nat.le_refl _⟩
    | cons c cs =>
      obtain ⟨l, rest, s', hl, hs, hfeed⟩ := exists_lexeme_of_feed h
      -- the same lexeme is read in the similar state
      have hstep {lo base t ys mid fin'} (hsim : ParseState.Similar lo base s t)
          (hread : (readLexeme s.flags c).run ys = .ok (l, mid))
          (hfin : feed t (c :: ys) = .ok fin') :
          ∃ t', ParseState.Similar lo base s' t' ∧ feed t' mid = .ok fin' ∧
            t.groups ≤ t'.groups := by
        obtain ⟨l', mid', t', hl', ht', hfin⟩ := exists_lexeme_of_feed hfin
        rw [hsim.flags_eq, hread] at hl'
        cases hl'
        obtain ⟨t'', ht'', hsim', hgroups, -⟩ := hsim.apply hs (.same l) (not_mem_of_apply ht') mid
        rw [ht''] at ht'
        cases ht'
        exact ⟨t', hsim', hfin, hgroups⟩
      by_cases hrest : rest = []
      · subst hrest
        obtain rfl := Except.ok.inj ((feed_nil s').symm.trans hfeed)
        rcases stopsAt_readLexeme c hl with hstops | hstops
        · exact .inl fun hsim hfin => hstep hsim (hstops _) hfin
        · refine .inr fun hsim hfin => ?_
          obtain ⟨t', hsim', hfin', -⟩ := hstep hsim hstops hfin
          obtain rfl := Except.ok.inj ((feed_nil t').symm.trans hfin')
          exact hsim'
      · obtain ⟨u, rfl, hu⟩ := local_readLexeme c l hl
        have hread (ys : List Char) :
            (readLexeme s.flags c).run (u ++ rest ++ ys) = .ok (l, rest ++ ys) := by
          rw [List.append_assoc]
          exact hu (sameEdge_of_extension ⟨hrest, ys, rfl⟩)
        have hlen : rest.length < n := by
          rw [← hn, List.length_cons, List.length_append]
          omega
        rcases ih rest.length hlen hfeed rfl with hih | hih
        · refine .inl fun hsim hfin => ?_
          obtain ⟨t', hsim', hfin', hgroups⟩ := hstep hsim (hread _) hfin
          obtain ⟨t'', hsim'', hfin'', hgroups'⟩ := hih hsim' hfin'
          exact ⟨t'', hsim'', hfin'', Nat.le_trans hgroups hgroups'⟩
        · refine .inr fun hsim hfin => ?_
          obtain ⟨t', hsim', hfin', -⟩ := hstep hsim (hread _) hfin
          exact hih hsim' hfin'

/-- What is known when an expression has been read. -/
theorem exists_feed_of_parse {text : String} {a : Regex} (h : parse text = .ok a) :
    ∃ fin, feed {} text.toList = .ok fin ∧ fin.outer = [] ∧ a = fin.current.close.regex := by
  rw [parse_eq] at h
  cases hfeed : feed {} text.toList with
  | error e =>
    rw [hfeed] at h
    cases h
  | ok fin =>
    rw [hfeed] at h
    replace h : finish fin = .ok a := h
    simp only [finish] at h
    split at h <;> rename_i houter
    · cases h
    · refine ⟨fin, rfl, by simpa using houter, ?_⟩
      repeat' split at h
      all_goals cases h
      rfl

theorem head_ne_of_parse {text : String} {a : Regex} (h : parse text = .ok a) :
    text.toList.head? ≠ some '?' := by
  obtain ⟨fin, hfeed, -⟩ := exists_feed_of_parse h
  intro hhead
  obtain ⟨cs, hcs⟩ := List.head?_eq_some_iff.mp hhead
  rw [hcs] at hfeed
  obtain ⟨l, rest, s', hl, hs, -⟩ := exists_lexeme_of_feed hfeed
  obtain ⟨lazy, mid, -, hl⟩ := exists_of_run_bind (k := fun lazy =>
    (pure (.repetition 0 (some 1) lazy) : Read Lexeme)) hl
  cases hl
  cases hs

theorem run_readLexeme_close (f : Flags) (cs : List Char) :
    (readLexeme f ')').run cs = .ok (.close, cs) := by
  rw [readLexeme_eq_readMark (by decide)]
  rfl

/-- A state that went on over a text, with the parts read there, the last one first, and with the
groups and the names that there are by then. -/
def ParseState.past (s : ParseState) (ps : List Part) (groups : Nat) (names : List (List Char)) :
    ParseState :=
  { s.withParts (ps ++ s.current.parts) with groups, names }

theorem ParseState.past_past (s : ParseState) (ps qs : List Part) (k l : Nat)
    (names names' : List (List Char)) :
    (s.past ps k names).past qs l names' = s.past (qs ++ ps) l names' := by
  simp [past, withParts]

/-- An expression in parentheses is read as the next group, if it does not end in a comment. -/
theorem feed_parenthesized {text : String} {b : Regex} (hb : parse text = .ok b)
    (hclosed : (parse ("(" ++ text ++ ")")).isOk = true) {s fin : ParseState} {cs : List Char}
    (hs : s.flags = {}) (h : feed s ('(' :: (text.toList ++ ')' :: cs)) = .ok fin) :
    ∃ p a k names, p.regex = .group (s.groups + 1) a ∧ p.setting = false ∧ a.erase = b.erase ∧
      (∀ g ∈ a.groups, s.groups + 1 < g ∧ g ≤ k) ∧ s.groups + 1 ≤ k ∧
      feed (s.past [p] k names) cs = .ok fin := by
  obtain ⟨end₀, hfeed, houter, rfl⟩ := exists_feed_of_parse hb
  have hhead (ys : List Char) : (text.toList ++ ')' :: ys).head? ≠ some '?' := by
    have := head_ne_of_parse hb
    cases htext : text.toList with
    | nil => simp
    | cons c w => simpa [htext] using this
  have hcapture {s : ParseState} (hs : s.flags = {}) :
      ParseState.Similar (s.groups + 1) s.capture.outer {} s.capture :=
    ⟨hs, .empty, ⟨[], rfl, .nil⟩, Nat.le_refl _⟩
  rcases feed_within hfeed with hwithin | hwithin
  · rw [feed_open hs (hhead cs)] at h
    obtain ⟨t, hsim, hfin, hgroups⟩ := hwithin (hcapture hs) h
    obtain ⟨inner, hout, hinner⟩ := hsim.outer
    rw [houter, List.forall₂_nil_left_iff] at hinner
    rw [hinner, List.nil_append] at hout
    have hclose := hsim.current.close
    refine ⟨t.current.close.group (some (s.groups + 1)), t.current.close.regex, t.groups, t.names,
      rfl, rfl, hclose.erase_eq, hclose.groups, hgroups, ?_⟩
    rw [← hfin]
    symm
    refine feed_of_lexeme (run_readLexeme_close _ _) ?_
    simp only [Lexeme.apply, closeGroup, hout, ParseState.capture]
    rfl
  · -- the comment goes on behind the parenthesis, and the group is never closed
    exfalso
    obtain ⟨a, hparse⟩ := exists_of_isOk hclosed
    obtain ⟨fin', hfeed', houter', -⟩ := exists_feed_of_parse hparse
    have hlist : ("(" ++ text ++ ")").toList = '(' :: (text.toList ++ [')']) := by simp
    rw [hlist, feed_open rfl (hhead [])] at hfeed'
    obtain ⟨inner, hout, -⟩ := (hwithin (hcapture rfl) hfeed').outer
    rw [houter'] at hout
    simp [ParseState.capture] at hout

end PathRoute.Regex
