import PathRoute.Pattern
import PathRoute.Proofs.Regex.Parsing

/-!
# The expression of a template

Where no placeholder has a requirement of its own, the expression that is written for a template is
read back as one part for each of its items, with the groups numbered as the template's capture
order is: `regex_of_compile`.
-/

namespace PathRoute

open Regex

namespace Regex

/-! ## The parts that have been read -/

theorem Part.regex_sequence (ps : List Part) :
    (Part.sequence ps).regex = seqs (ps.reverse.map (·.regex)) := by
  unfold sequence
  split <;> rfl

theorem Branches.regex_close {b : Branches} (h : b.done = []) :
    b.close.regex = seqs (b.parts.reverse.map (·.regex)) := by
  rw [close, h, Part.alternatives, Part.regex_sequence]

namespace ParseState

/-- A state with parts that were read after its own, the last one first, and with so many groups
opened for them. -/
def add (s : ParseState) (ps : List Part) (n : Nat) : ParseState :=
  { s.withParts (ps ++ s.current.parts) with groups := s.groups + n }

theorem add_add (s : ParseState) (ps qs : List Part) (m n : Nat) :
    (s.add ps m).add qs n = s.add (qs ++ ps) (m + n) := by
  simp [add, withParts, Nat.add_assoc]

theorem foldl_pushClass (s : ParseState) (text : List Char) :
    ∃ ps : List Part, ps.reverse.map (·.regex) = text.map single ∧
      text.foldl (fun s c => s.pushClass (.single c)) s = s.add ps 0 := by
  induction text generalizing s with
  | nil => exact ⟨[], rfl, rfl⟩
  | cons c text ih =>
    obtain ⟨ps, hps, heq⟩ := ih (s.pushClass (.single c))
    refine ⟨ps ++ [{ regex := single c, size := .ofClass (.single c) }], ?_, ?_⟩
    · rw [List.reverse_append, List.map_append, hps]
      rfl
    · rw [List.foldl_cons, heq]
      simp [add, withParts, pushClass, push, Branches.push, single]

end ParseState

/-- Where `n` groups have been opened, the text is read as these expressions one after the other,
and opens `k` more; or else there is no room for what is repeated in it. -/
def ReadAs (w : List Char) (n : Nat) (rs : List Regex) (k : Nat) : Prop :=
  ∀ ⦃s : ParseState⦄ ⦃cs : List Char⦄, s.flags = {} → s.groups = n → cs.head? ≠ some '?' →
    feed s (w ++ cs) = .error .tooLarge ∨
      ∃ ps : List Part, ps.reverse.map (·.regex) = rs ∧ feed s (w ++ cs) = feed (s.add ps k) cs

namespace ReadAs

variable {w w' : List Char} {n k k' : Nat} {rs rs' : List Regex}

/-- Where the reading succeeds there was room. -/
theorem exists_feed (h : ReadAs w n rs k) {s fin : ParseState} {cs : List Char} (hs : s.flags = {})
    (hn : s.groups = n) (hc : cs.head? ≠ some '?') (hfin : feed s (w ++ cs) = .ok fin) :
    ∃ ps : List Part, ps.reverse.map (·.regex) = rs ∧ feed (s.add ps k) cs = .ok fin := by
  rcases h hs hn hc with herror | ⟨ps, hps, hfeed⟩
  · cases herror.symm.trans hfin
  · exact ⟨ps, hps, hfeed.symm.trans hfin⟩

theorem nil : ReadAs [] n [] 0 := fun _ _ _ _ _ => .inr ⟨[], rfl, rfl⟩

theorem head_append {cs : List Char} (hw : w.head? ≠ some '?') (hc : cs.head? ≠ some '?') :
    (w ++ cs).head? ≠ some '?' := by
  cases w with
  | nil => exact hc
  | cons c w => exact hw

theorem append (h : ReadAs w n rs k) (h' : ReadAs w' (n + k) rs' k')
    (hw' : w'.head? ≠ some '?') : ReadAs (w ++ w') n (rs ++ rs') (k + k') := by
  intro s cs hs hn hc
  rw [List.append_assoc]
  rcases h hs hn (head_append hw' hc) with herror | ⟨ps, rfl, hfeed⟩
  · exact .inl herror
  · rw [hfeed]
    have hgroups : (s.add ps k).groups = n + k := by simp [ParseState.add, hn]
    rcases h' (by exact hs) hgroups hc with herror | ⟨qs, rfl, hfeed'⟩
    · exact .inl herror
    · exact .inr ⟨qs ++ ps, by simp, by rw [hfeed', ParseState.add_add]⟩

theorem quote (text : List Char) : ReadAs (Regex.quote text) n (text.map single) 0 := by
  intro s cs hs _ _
  obtain ⟨ps, hps, heq⟩ := s.foldl_pushClass text
  exact .inr ⟨ps, hps, by rw [feed_quote hs, heq]⟩

/-- The requirement where none was set is read as words of at least one character. -/
theorem word : ReadAs ['\\', 'w', '+'] n [.plus true (.char .word)] 0 := by
  intro s cs hs _ hc
  have hword : feed s ('\\' :: 'w' :: '+' :: cs) = feed (s.pushClass .word) ('+' :: cs) := by
    apply feed_of_step
    have hesc : (readEscape {}).run ('w' :: '+' :: cs) = .ok (.set .word, '+' :: cs) := rfl
    simp [step, hs, pushEscape, hesc]
  rw [List.cons_append, List.cons_append, List.cons_append, List.nil_append, hword]
  rcases feed_plus_cases (s := s.pushClass .word) hs rfl rfl hc with herror | ⟨q, hq, -, hfeed⟩
  · exact .inl herror
  · exact .inr ⟨[q], congrArg (fun r => [r]) hq, hfeed⟩

theorem textStart : ReadAs ['^'] n [.look .textStart] 0 := by
  intro s cs hs _ _
  have hstep : (step s '^').run cs = .ok (s.push { regex := .look .textStart }, cs) := by
    simp [step, hs]
  exact .inr ⟨[{ regex := .look .textStart }], rfl, feed_of_step hstep⟩

theorem textEnd : ReadAs ['$'] n [.look .textEnd] 0 := by
  intro s cs hs _ _
  have hstep : (step s '$').run cs = .ok (s.push { regex := .look .textEnd }, cs) := by
    simp [step, hs]
  exact .inr ⟨[{ regex := .look .textEnd }], rfl, feed_of_step hstep⟩

/-- A text in parentheses becomes the next group. -/
theorem feed_group (h : ReadAs w (n + 1) rs k) (hw : w.head? ≠ some '?') {s : ParseState}
    (hs : s.flags = {}) (hn : s.groups = n) (cs : List Char) :
    feed s ('(' :: (w ++ ')' :: cs)) = .error .tooLarge ∨
      ∃ p : Part, p.regex = .group (n + 1) (seqs rs) ∧ p.setting = false ∧
        feed s ('(' :: (w ++ ')' :: cs)) = feed (s.add [p] (k + 1)) cs := by
  rw [feed_open hs (head_append hw (by simp))]
  have hgroups : s.capture.groups = n + 1 := by simp [ParseState.capture, hn]
  have hclosing : (')' :: cs).head? ≠ some '?' := by simp
  rcases h (s := s.capture) hs hgroups hclosing with herror | ⟨ps, rfl, hfeed⟩
  · exact .inl herror
  · right
    rw [hfeed, feed_close (by exact hs) rfl]
    refine ⟨Part.group (some (n + 1)) (Branches.close { parts := ps }), ?_, rfl, ?_⟩
    · rw [Part.group, Branches.regex_close rfl]
    · simp [ParseState.add, ParseState.withParts, ParseState.capture, Branches.push, hn,
        Nat.add_assoc, Nat.add_comm 1 k]

theorem group (h : ReadAs w (n + 1) rs k) (hw : w.head? ≠ some '?') :
    ReadAs ('(' :: (w ++ [')'])) n [.group (n + 1) (seqs rs)] (k + 1) := by
  intro s cs hs hn _
  rw [List.cons_append, List.append_assoc, List.singleton_append]
  rcases feed_group h hw hs hn cs with herror | ⟨p, hp, -, hfeed⟩
  · exact .inl herror
  · exact .inr ⟨[p], congrArg (fun r => [r]) hp, hfeed⟩

theorem optionalGroup (h : ReadAs w (n + 1) rs k) (hw : w.head? ≠ some '?') :
    ReadAs ('(' :: (w ++ [')', '?'])) n [opt true (.group (n + 1) (seqs rs))] (k + 1) := by
  intro s cs hs hn hc
  rw [List.cons_append, List.append_assoc, List.cons_append, List.singleton_append]
  rcases feed_group h hw hs hn ('?' :: cs) with herror | ⟨p, hp, hset, hfeed⟩
  · exact .inl herror
  · rw [hfeed]
    rcases feed_optional_cases (s := s.add [p] (k + 1)) hs rfl hset hc with
      herror | ⟨q, hq, -, hfeed'⟩
    · exact .inl herror
    · rw [hp] at hq
      exact .inr ⟨[q], congrArg (fun r => [r]) hq, hfeed'⟩

/-- The whole expression is the sequence of its parts. It is refused only where it does not keep
within the limits. -/
theorem parse_cases (h : ReadAs w 0 rs k) :
    parse (.ofList w) = .error .nestedTooDeep ∨ parse (.ofList w) = .error .tooLarge ∨
      parse (.ofList w) = .ok (seqs rs) := by
  rw [parse_eq, String.toList_ofList]
  rcases @h {} [] rfl rfl (by simp) with herror | ⟨ps, rfl, hfeed⟩
  · rw [List.append_nil] at herror
    rw [herror]
    exact .inr (.inl rfl)
  · rw [List.append_nil, feed_nil] at hfeed
    have hregex : (ParseState.add {} ps k).current.close.regex =
        seqs (ps.reverse.map (·.regex)) := by
      rw [Branches.regex_close rfl]
      simp [ParseState.add, ParseState.withParts]
    have hclosed : (ParseState.add {} ps k).outer = [] := rfl
    rw [hfeed, ← hregex]
    exact finish_cases hclosed

theorem eq_seqs_of_parse (h : ReadAs w 0 rs k) {r : Regex} (hr : parse (.ofList w) = .ok r) :
    r = seqs rs := by
  rcases h.parse_cases with hparse | hparse | hparse
  · cases hparse.symm.trans hr
  · cases hparse.symm.trans hr
  · exact Except.ok.inj (hr.symm.trans hparse)

end ReadAs

end Regex

namespace Template

/-- No placeholder of the template has a requirement of its own. -/
def Unrestricted (ps : Placeholders) (t : Template) : Prop :=
  ∀ name ∈ t.names, (ps.rules name).requirement = ({} : Placeholder).requirement

theorem unrestricted_empty (t : Template) : t.Unrestricted ∅ := by
  intro name _
  rw [Placeholders.rules_empty]

namespace Unrestricted

variable {ps : Placeholders} {name : String} {inner rest : Template}

theorem of_placeholder (h : (placeholder name rest).Unrestricted ps) : rest.Unrestricted ps :=
  fun n hn => h n (List.mem_cons_of_mem _ hn)

theorem inner_of_optional (h : (optional inner rest).Unrestricted ps) : inner.Unrestricted ps :=
  fun n hn => h n (List.mem_append_left _ hn)

theorem rest_of_optional (h : (optional inner rest).Unrestricted ps) : rest.Unrestricted ps :=
  fun n hn => h n (List.mem_append_right _ hn)

theorem requirement_eq (h : (placeholder name rest).Unrestricted ps) :
    (requirement ps name).toList = ['\\', 'w', '+'] := by
  rw [requirement, h name List.mem_cons_self]
  simp [Requirement.withoutCaptures, Requirement.dropCaptures]

end Unrestricted

/-- The expressions for the items of a template, where `n` groups have been opened before. -/
def regexes (ps : Placeholders) : Template → (n : Nat) → List Regex
  | .nil, _ => []
  | .literal text rest, n => text.toList.map single ++ rest.regexes ps n
  | .placeholder name rest, n =>
    let value : Regex := .group (n + 1) (.plus true (.char .word))
    (if (ps.rules name).default.isSome then opt true value else value) :: rest.regexes ps (n + 1)
  | .optional inner rest, n =>
    opt true (.group (n + 1) (seqs (inner.regexes ps (n + 1)))) ::
      rest.regexes ps (n + 1 + inner.captureOrder.length)

variable {ps : Placeholders}

/-- What is written for a template does not begin like a repetition. -/
theorem head_body (t : Template) : (t.body ps).head? ≠ some '?' := by
  induction t with
  | nil => simp [body]
  | literal text rest ih =>
    refine ReadAs.head_append ?_ ih
    cases text.toList with
    | nil => simp
    | cons c text =>
      by_cases hm : isMeta c = true
      · simp [quote_cons, hm]
      · have : c ≠ '?' := by
          rintro rfl
          exact hm rfl
        simp [quote_cons, hm, this]
  | placeholder | optional => simp [body]

/-- What is written for a template is read as one part for each of its items. -/
theorem readAs_body (t : Template) (ht : t.Unrestricted ps) (n : Nat) :
    ReadAs (t.body ps) n (t.regexes ps n) t.captureOrder.length := by
  induction t generalizing n with
  | nil => exact .nil
  | literal text rest ih =>
    have := (ReadAs.quote text.toList).append (ih ht n) rest.head_body
    rwa [Nat.zero_add] at this
  | placeholder name rest ih =>
    have hrest := ih ht.of_placeholder (n + 1)
    rw [body, ht.requirement_eq, captureOrder, List.length_cons, Nat.add_comm]
    by_cases hd : (ps.rules name).default.isSome = true
    · have := (ReadAs.optionalGroup (n := n) .word (by simp)).append hrest rest.head_body
      simpa only [regexes, seqs, hd, if_true, List.cons_append, List.append_assoc,
        List.nil_append, Nat.zero_add] using this
    · have := (ReadAs.group (n := n) .word (by simp)).append hrest rest.head_body
      simpa only [regexes, seqs, hd, Bool.false_eq_true, if_false, List.cons_append,
        List.append_assoc, List.nil_append, Nat.zero_add] using this
  | optional inner rest ihi ihr =>
    have hinner := (ihi ht.inner_of_optional (n + 1)).optionalGroup inner.head_body
    have hrest := ihr ht.rest_of_optional (n + (inner.captureOrder.length + 1))
    have := hinner.append hrest rest.head_body
    rw [captureOrder, List.length_cons, List.length_append, Nat.add_right_comm]
    simpa only [body, regexes, List.cons_append, List.append_assoc, List.nil_append,
      Nat.add_assoc, Nat.add_comm 1] using this

/-- The expression of a template is read between the ends of the path. -/
theorem readAs_expression (t : Template) (ht : t.Unrestricted ps) :
    ReadAs ('^' :: (t.body ps ++ ['$'])) 0
      (.look .textStart :: (t.regexes ps 0 ++ [.look .textEnd])) t.captureOrder.length := by
  have hbody := (t.readAs_body ht 0).append .textEnd (by simp)
  have hwhole := ReadAs.textStart.append hbody (ReadAs.head_append t.head_body (by simp))
  rwa [Nat.add_zero, Nat.zero_add] at hwhole

end Template

namespace Pattern

variable {path : String} {ps : Placeholders} {p : Pattern}

/-- The expression of a compiled template, where no placeholder has a requirement of its own. -/
theorem regex_of_compile (h : compile path ps = .ok p) (ht : p.template.Unrestricted ps) :
    p.regex = seqs (.look .textStart :: (p.template.regexes ps 0 ++ [.look .textEnd])) := by
  have hc := compiled_of_compile h
  refine (p.template.readAs_expression ht).eq_seqs_of_parse ?_
  rw [← hc.parse_expression, hc.expression_eq]
  rfl

end Pattern

end PathRoute
