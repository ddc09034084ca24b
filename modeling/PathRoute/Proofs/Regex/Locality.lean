import PathRoute.Proofs.Text.Locality
import PathRoute.Regex.Parser

/-!
# What the readers of escapes and counts look at

Escapes, counts, names and flags are read with one character of what follows. The exception is the
escape for word boundaries, which looks behind a brace for the name of an edge.
-/

namespace PathRoute.Regex

open Reader

variable {f : Flags} {ρ : List Char → List Char → Prop} {cs rest : List Char}

/-! ## Escapes -/

theorem idle_charAt (n : Nat) : Idle (charAt n) := by
  unfold charAt
  split
  · exact idle_pure _
  · exact idle_fail _

theorem idle_perlClass (all : CharClass) (ascii : CodeRanges) (negated : Bool) :
    Idle (perlClass f all ascii negated) := by
  unfold perlClass
  split
  · exact idle_pure _
  · split
    · exact idle_fail _
    · exact idle_pure _

/-- The last step of reading a property: the class that has been found, if it may be used. -/
def foundProperty (f : Flags) (negated : Bool) (found : Option CharClass) : Read Atom := do
  if !f.unicode then .fail .needsUnicode
  match found with
  | none => .fail .unknownProperty
  | some a => return .set (if negated then .compl (f.fold a) else f.fold a)

theorem idle_foundProperty (negated : Bool) (found : Option CharClass) :
    Idle (foundProperty f negated found) := by
  unfold foundProperty
  dsimp only
  split
  · exact idle_fail_bind _ _
  · split
    · exact idle_fail _
    · exact idle_pure _

section

variable (hρ : Lookahead ρ)

include hρ

theorem local_skipBlanks : Local ρ (skipBlanks f) := by
  unfold skipBlanks
  split
  · exact .bind hρ (local_repeatWhile hρ (fun _ _ => local_pure _) _) fun _ => local_pure _
  · exact local_pure _

theorem local_readHex (digits value : Nat) : Local ρ (readHex f digits value) := by
  induction digits generalizing value with
  | zero => exact local_pure _
  | succ n ih =>
    refine .bind hρ (local_next _) fun c => ?_
    split
    · exact (idle_fail _).isLocal
    · exact .bind hρ (local_skipBlanks hρ) fun _ => ih _

theorem local_readBracedHex : Local ρ (readBracedHex f) := by
  refine .bind hρ (local_repeatWhile hρ (fun value c => ?_) _) fun value => ?_
  · split
    · exact (idle_fail _).isLocal
    · exact .bind hρ (local_skipBlanks hρ) fun _ => local_pure _
  · refine .bind hρ (local_next _) fun _ => .bind hρ (local_skipBlanks hρ) fun _ => ?_
    split
    · exact (idle_fail _).isLocal
    · exact local_pure _

theorem local_readCode (digits : Nat) : Local ρ (readCode f digits) := by
  refine .bind hρ (local_skipBlanks hρ) fun _ => local_ifPeek hρ ?_ ?_
  · exact .bind hρ (local_skipBlanks hρ) fun _ => .bind hρ (local_readBracedHex hρ) fun n =>
      .bind hρ (idle_charAt n).isLocal fun _ => local_pure _
  · exact .bind hρ (local_readHex hρ _ _) fun n => .bind hρ (idle_charAt n).isLocal fun _ =>
      local_pure _

/-- A loop that collects characters of a kind, with blank ones between. -/
theorem local_collect (p : Char → Bool) (name : List Char) :
    Local ρ (repeatWhile (fun _ c => p c) (fun name c => do skipBlanks f; pure (c :: name)) name) :=
  local_repeatWhile hρ (fun _ _ => .bind hρ (local_skipBlanks hρ) fun _ => local_pure _) name

theorem local_readProperty (negated : Bool) : Local ρ (readProperty f negated) := by
  refine .bind hρ (local_skipBlanks hρ) fun _ => .bind hρ (local_next _) fun c => ?_
  have hfound (found : Option CharClass) : Local ρ (foundProperty f negated found) :=
    (idle_foundProperty negated found).isLocal
  change Local ρ (if (c == '{') = true then _ else if (c == '\\') = true then _ else _)
  split
  · exact .bind hρ (local_skipBlanks hρ) fun _ => .bind hρ (local_collect hρ _ _) fun _ =>
      .bind hρ (local_next _) fun _ => .bind hρ (local_pure _) hfound
  · split
    · exact (idle_fail_bind _ _).isLocal
    · exact .bind hρ (local_skipBlanks hρ) fun _ => .bind hρ (local_pure _) hfound

end

/-! ## Word edges -/

/-- What an edge's name is made of. -/
def isEdgeChar (c : Char) : Bool := c.isAlpha || c == '-'

/-- The edge of a name. -/
def edgeNamed (name : List Char) : Read WordEdge :=
  match String.ofList name.reverse with
  | "start" => pure .start
  | "end" => pure .stop
  | "start-half" => pure .startHalf
  | "end-half" => pure .stopHalf
  | _ => .fail .badEscape

/-- The name of an edge, from its first character on. -/
def readEdgeName (f : Flags) : Read WordEdge := do
  let name ← Reader.repeatWhile (fun _ c => isEdgeChar c)
    (fun name c => do skipBlanks f; pure (c :: name)) []
  let c ← Reader.next .badEscape
  if c != '}' then .fail .badEscape else edgeNamed name

theorem run_readWordEdge_of_ne (h : ∀ r, cs ≠ '{' :: r) :
    (readWordEdge f).run cs = .ok (.boundary, cs) := by
  unfold readWordEdge
  rw [run_bind, run_ahead]
  dsimp only
  split
  · exact absurd rfl (h _)
  · rfl

theorem run_readWordEdge_brace {c : Char} {tail : List Char}
    (h : (skipBlanks f).run cs = .ok ((), c :: tail)) :
    (readWordEdge f).run ('{' :: cs) =
      if isEdgeChar c then (readEdgeName f).run (c :: tail) else .ok (.boundary, '{' :: cs) := by
  unfold readWordEdge
  rw [run_bind, run_ahead]
  dsimp only
  split
  · rename_i _ _ heq
    obtain rfl := (List.cons.inj heq).2
    rw [h]
    change (if (!isEdgeChar c) = true then _ else _ : Read WordEdge).run _ = _
    by_cases hc : isEdgeChar c = true
    · have hedge : (fun (_ : List Char) c => c.isAlpha || c == '-') = fun _ c => isEdgeChar c := rfl
      simp only [hc, Bool.not_true, Bool.false_eq_true, if_false, run_bind, run_skip, List.drop_one,
        List.tail_cons, h, if_true, readEdgeName, hedge]
      split
      · rfl
      · split
        · rfl
        · split <;> rfl
    · simp [hc]
  · rename_i hne
    exact absurd rfl (hne cs)

theorem exists_of_run_readWordEdge_brace {e : WordEdge}
    (h : (readWordEdge f).run ('{' :: cs) = .ok (e, rest)) :
    ∃ c tail, (skipBlanks f).run cs = .ok ((), c :: tail) := by
  unfold readWordEdge at h
  rw [run_bind, run_ahead] at h
  dsimp only at h
  split at h
  · rename_i _ _ heq
    obtain rfl := (List.cons.inj heq).2
    split at h
    · exact ⟨_, _, by assumption⟩
    · cases h
  · rename_i hne
    exact absurd rfl (hne cs)

theorem sealed_readEdgeName : Sealed (readEdgeName f) := by
  refine .after (fun name => sealed_next fun c => .inl ?_) (local_collect lookahead_sameHead _ _)
  split
  · exact idle_fail _
  · unfold edgeNamed
    split <;> first | exact idle_pure _ | exact idle_fail _

/-- A word edge is read alike before the texts: their first characters are the same, and behind a
brace the first ones that are no blanks. -/
def SameEdge (f : Flags) (r ys : List Char) : Prop :=
  r.head? = ys.head? ∧ ∀ ⦃r' ys'⦄, r = '{' :: r' → ys = '{' :: ys' →
    ∀ ⦃c tail⦄, (skipBlanks f).run r' = .ok ((), c :: tail) →
      ∃ tail', (skipBlanks f).run ys' = .ok ((), c :: tail')

theorem sameEdge_of_extension {r ys : List Char} (h : Extension r ys) : SameEdge f r ys := by
  refine ⟨lookahead_extension.head_eq h, ?_⟩
  rintro r' ys' rfl rfl c tail hblanks
  obtain ⟨-, x, hx⟩ := h
  obtain rfl : ys' = r' ++ x := (List.cons.inj hx).2
  obtain ⟨u, rfl, hu⟩ := local_skipBlanks lookahead_extension () hblanks
  refine ⟨tail ++ x, ?_⟩
  rw [List.append_assoc]
  exact hu ⟨by simp, x, rfl⟩

/-- A word edge is a boundary with nothing taken, or it has a name, and then an end of its own. -/
theorem run_readWordEdge_cases {e : WordEdge} (h : (readWordEdge f).run cs = .ok (e, rest)) :
    (e = .boundary ∧ rest = cs ∧ ∀ r, cs = '{' :: r → ∃ c tail,
      (skipBlanks f).run r = .ok ((), c :: tail) ∧ ¬ isEdgeChar c = true) ∨
    ∃ u, u ≠ [] ∧ cs = u ++ rest ∧ ∀ ys, (readWordEdge f).run (u ++ ys) = .ok (e, ys) := by
  by_cases hcs : ∃ r, cs = '{' :: r
  · obtain ⟨r, rfl⟩ := hcs
    obtain ⟨c, tail, hblanks⟩ := exists_of_run_readWordEdge_brace h
    rw [run_readWordEdge_brace hblanks] at h
    split at h <;> rename_i hc
    · right
      obtain ⟨w, hne, htail, hw⟩ := sealed_readEdgeName h
      obtain ⟨d, w, rfl⟩ := List.exists_cons_of_ne_nil hne
      obtain ⟨rfl, rfl⟩ := List.cons.inj htail
      obtain ⟨v, rfl, hv⟩ := local_skipBlanks lookahead_sameHead () hblanks
      refine ⟨'{' :: (v ++ c :: w), by simp, by simp, fun ys => ?_⟩
      have hys : (skipBlanks f).run (v ++ c :: (w ++ ys)) = .ok ((), c :: (w ++ ys)) := hv rfl
      rw [List.cons_append, List.append_assoc, List.cons_append, run_readWordEdge_brace hys,
        if_pos hc]
      exact hw ys
    · cases h
      refine .inl ⟨rfl, rfl, ?_⟩
      rintro _ ⟨⟩
      exact ⟨c, tail, hblanks, hc⟩
  · rw [run_readWordEdge_of_ne fun r hr => hcs ⟨r, hr⟩] at h
    cases h
    exact .inl ⟨rfl, rfl, fun r hr => absurd ⟨r, hr⟩ hcs⟩

theorem local_readWordEdge : Local (SameEdge f) (readWordEdge f) := by
  intro e cs rest h
  rcases run_readWordEdge_cases h with ⟨rfl, rfl, hbrace⟩ | ⟨u, -, rfl, hu⟩
  · refine ⟨[], rfl, fun ys ⟨hhead, hedge⟩ => ?_⟩
    by_cases hys : ∃ r, ys = '{' :: r
    · obtain ⟨ys, rfl⟩ := hys
      obtain ⟨r, rfl⟩ : ∃ r, rest = '{' :: r := by
        cases rest with
        | nil => cases hhead
        | cons c r => exact ⟨r, by rw [Option.some.inj hhead]⟩
      obtain ⟨c, tail, hblanks, hc⟩ := hbrace r rfl
      obtain ⟨tail', hblanks'⟩ := hedge rfl rfl hblanks
      rw [List.nil_append, run_readWordEdge_brace hblanks', if_neg hc]
    · exact run_readWordEdge_of_ne fun r hr => hys ⟨r, hr⟩
  · exact ⟨u, rfl, fun ys _ => hu ys⟩

/-! ## What follows a backslash -/

/-- Where the escape is no condition on its place, nothing is asked of what stands behind a
brace. -/
theorem localAt_readEscape (hρ : Lookahead ρ) {a : Atom} (ha : ∀ l, a ≠ .look l) :
    LocalAt ρ (readEscape f) a := by
  refine LocalAt.bind hρ (fun c _ => local_next _ c) fun c => ?_
  dsimp only
  split
  case h_20 =>
    intro cs rest h
    obtain ⟨e, mid, -, hk⟩ := exists_of_run_bind h
    cases hk
    exact absurd rfl (ha _)
  case h_24 =>
    split
    · exact local_pure _ a
    · split <;> exact (idle_fail _).isLocal a
  all_goals
    first
    | exact local_pure _ a
    | exact local_readCode hρ _ a
    | exact local_readProperty hρ _ a
    | exact (idle_perlClass _ _ _).isLocal a

theorem local_readEscape : Local (SameEdge f) (readEscape f) := by
  refine local_next_bind fun c => ?_
  dsimp only
  split
  case h_20 => exact local_readWordEdge.bind_idle fun _ => idle_pure _
  case h_24 =>
    split
    · exact local_pure _
    · split <;> exact (idle_fail _).isLocal
  all_goals
    first
    | exact local_pure _
    | exact (local_readCode lookahead_sameHead _).mono fun _ _ h => h.1
    | exact (local_readProperty lookahead_sameHead _).mono fun _ _ h => h.1
    | exact (idle_perlClass _ _ _).isLocal

/-! ## Counts, names and flags -/

theorem local_readCount (hρ : Lookahead ρ) : Local ρ (readCount f) := by
  refine .bind hρ (local_skipWhile hρ _) fun _ => .bind hρ (local_repeatWhile hρ (fun _ _ =>
    .bind hρ (local_skipBlanks hρ) fun _ => local_pure _) _) fun n => .bind hρ
      (local_repeatWhile hρ (fun _ _ => local_skipBlanks hρ) _) fun _ => ?_
  dsimp only
  split
  · exact (idle_fail_bind _ _).isLocal
  · exact local_pure _

theorem sealed_readCounts : Sealed (readCounts f) := by
  have hlocal := local_readCount (f := f) lookahead_sameHead
  have hblanks := local_skipBlanks (f := f) lookahead_sameHead
  refine .after (fun _ => .after (fun least => sealed_next fun c => ?_) hlocal) hblanks
  cases least with
  | none => exact .inl (idle_fail _)
  | some least =>
    dsimp only
    split
    · exact .inl (idle_pure _)
    · split
      · exact .inl (idle_fail_bind _ _)
      · refine .inr (.after (fun _ => sealed_ifSkipText rfl (idle_pure _)
          (.after (fun most => ?_) hlocal)) hblanks)
        cases most with
        | none => exact sealed_fail _
        | some most =>
          refine sealed_next fun d => .inl ?_
          split
          · exact idle_fail_bind _ _
          · exact idle_pure _

theorem sealed_readGroupName : Sealed readGroupName := by
  refine .after (fun name => sealed_next fun _ => .inl ?_) (local_repeatWhile lookahead_sameHead
    (fun name c => ?_) _)
  · dsimp only
    split
    · exact idle_fail_bind _ _
    · exact idle_pure _
  · split
    · exact local_pure _
    · exact (idle_fail _).isLocal

theorem local_readFlags (hρ : Lookahead ρ) : Local ρ readFlags := by
  refine .bind hρ (local_repeatWhile hρ (fun fs c => ?_) _) fun fs => ?_
  · split
    · split
      · exact (idle_fail _).isLocal
      · exact local_pure _
    · split
      · exact local_pure _
      · exact (idle_fail _).isLocal
  · dsimp only
    split
    · exact (idle_fail_bind _ _).isLocal
    · exact local_pure _

/-! ## The end of a text in parentheses -/

theorem stopsAt_skipBlanks : StopsAt ')' (skipBlanks f) := by
  unfold skipBlanks
  split
  · have hloop : StopsAt ')' (repeatWhile (fun note c => note || isBlank c || c == '#')
        (fun note c => pure (if note then c != '\n' else c == '#')) false : Read Bool) := by
      refine stopsAt_repeatWhile (fun _ _ => local_pure _) (fun _ _ => stopsAt_pure _) ?_ _
      intro note h
      cases note with
      | false => exact absurd h (by decide)
      | true => rfl
    have hlocal : Local Extension (repeatWhile (fun note c => note || isBlank c || c == '#')
        (fun note c => pure (if note then c != '\n' else c == '#')) false : Read Bool) :=
      local_repeatWhile lookahead_extension (fun _ _ => local_pure _) _
    exact hloop.bind hlocal fun _ => stopsAt_pure _
  · exact stopsAt_pure _

theorem stopsAt_readHex (digits value : Nat) : StopsAt ')' (readHex f digits value) := by
  induction digits generalizing value with
  | zero => exact stopsAt_pure _
  | succ n ih =>
    refine .bind (local_next _) (stopsAt_next _) fun c => ?_
    split
    · exact (idle_fail _).stopsAt
    · exact .bind (local_skipBlanks lookahead_extension) stopsAt_skipBlanks fun _ => ih _

theorem stopsAt_readBracedHex : StopsAt ')' (readBracedHex f) := by
  refine .bind_next (local_repeatWhile lookahead_extension (fun value c => ?_) _) fun value _ => ?_
  · split
    · exact (idle_fail _).isLocal
    · exact .bind lookahead_extension (local_skipBlanks lookahead_extension) fun _ => local_pure _
  · refine .bind (local_skipBlanks lookahead_extension) stopsAt_skipBlanks fun _ => ?_
    split
    · exact (idle_fail _).stopsAt
    · exact stopsAt_pure _

theorem stopsAt_readCode (digits : Nat) : StopsAt ')' (readCode f digits) := by
  have hblanks := local_skipBlanks (f := f) lookahead_extension
  refine .bind hblanks stopsAt_skipBlanks fun _ => stopsAt_ifPeek (by decide) ?_ ?_
  · exact .bind hblanks stopsAt_skipBlanks fun _ => .bind (local_readBracedHex lookahead_extension)
      stopsAt_readBracedHex fun n => .bind (idle_charAt n).isLocal (idle_charAt n).stopsAt fun _ =>
        stopsAt_pure _
  · exact .bind (local_readHex lookahead_extension _ _) (stopsAt_readHex _ _) fun n =>
      .bind (idle_charAt n).isLocal (idle_charAt n).stopsAt fun _ => stopsAt_pure _

theorem stopsAt_readWordEdge : StopsAt ')' (readWordEdge f) := by
  intro cs e h
  rcases run_readWordEdge_cases h with ⟨rfl, rfl, -⟩ | ⟨u, -, rfl, hu⟩
  · exact .inl fun ys => run_readWordEdge_of_ne (by simp)
  · rw [List.append_nil]
    exact .inl fun ys => hu (')' :: ys)

theorem stopsAt_readProperty (negated : Bool) : StopsAt ')' (readProperty f negated) := by
  have hblanks := local_skipBlanks (f := f) lookahead_extension
  refine .bind hblanks stopsAt_skipBlanks fun _ => .bind (local_next _) (stopsAt_next _) fun c => ?_
  have hfound (found : Option CharClass) : StopsAt ')' (foundProperty f negated found) :=
    (idle_foundProperty negated found).stopsAt
  change StopsAt ')' (if (c == '{') = true then _ else if (c == '\\') = true then _ else _)
  split
  · exact .bind hblanks stopsAt_skipBlanks fun _ => .bind_next
      (local_collect lookahead_extension _ _) fun _ _ =>
        .bind (local_pure _) (stopsAt_pure _) hfound
  · split
    · exact (idle_fail_bind _ _).stopsAt
    · exact .bind hblanks stopsAt_skipBlanks fun _ => .bind (local_pure _) (stopsAt_pure _) hfound

theorem stopsAt_readEscape : StopsAt ')' (readEscape f) := by
  refine .bind (local_next _) (stopsAt_next _) fun c => ?_
  dsimp only
  split
  case h_20 =>
    exact .bind (local_readWordEdge.mono fun _ _ => sameEdge_of_extension) stopsAt_readWordEdge
      fun _ => stopsAt_pure _
  case h_24 =>
    split
    · exact stopsAt_pure _
    · split <;> exact (idle_fail _).stopsAt
  all_goals
    first
    | exact stopsAt_pure _
    | exact stopsAt_readCode _
    | exact stopsAt_readProperty _
    | exact (idle_perlClass _ _ _).stopsAt

end PathRoute.Regex
