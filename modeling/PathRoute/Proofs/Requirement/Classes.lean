import PathRoute.Proofs.Requirement.Plain

/-!
# Classes in requirements

Without the verbose flag, a bracketed class in which no other bracket opens is copied, and the
rewriting leaves it where it ends: `dropCaptures_of_readBracket`.
-/

namespace PathRoute.Requirement

open Regex Reader

attribute [local instance] Reader.lawfulMonad

/-- The rewriting copies the text within a class and stays there. -/
def CopiedIn (v : List Char) : Prop := ∀ ys, dropCaptures true (v ++ ys) = v ++ dropCaptures true ys

namespace CopiedIn

variable {c : Char} {u v : List Char}

theorem nil : CopiedIn [] := fun _ => rfl

theorem append (hu : CopiedIn u) (hv : CopiedIn v) : CopiedIn (u ++ v) := fun ys => by
  rw [List.append_assoc, hu, hv, List.append_assoc]

theorem of_plain (h : ∀ c ∈ u, IsPlain c) : CopiedIn u := dropCaptures_append h

theorem escape (h : ∀ c ∈ u, IsPlain c) : CopiedIn ('\\' :: c :: u) := fun ys => by
  simp only [List.cons_append, dropCaptures_escape, dropCaptures_append h]

/-- Within a class brackets and parentheses open nothing for the rewriting. -/
theorem singleton (hback : c ≠ '\\') (hclose : c ≠ ']') : CopiedIn [c] := fun ys => by
  rw [List.singleton_append, dropCaptures.eq_def]
  split <;> simp_all

end CopiedIn

variable {f : Flags} (hf : f.verbose = false) {c : Char} {cs rest : List Char} {first : Atom}
  {m : Nested} {b : Bracket}

include hf

/-! ## Members -/

theorem copiedIn_readAtom {a : Atom} (hc : c ≠ ']') (h : (readAtom f c).run cs = .ok (a, rest)) :
    ∃ v, cs = v ++ rest ∧ CopiedIn (c :: v) := by
  unfold readAtom at h
  split at h <;> rename_i hback
  · obtain rfl : c = '\\' := by simpa using hback
    obtain ⟨d, u, rfl, hu⟩ := plain_of_run_readEscape hf h
    exact ⟨d :: u, rfl, .escape hu⟩
  · cases h
    exact ⟨[], rfl, .singleton (by simpa using hback) hc⟩

theorem copiedIn_readRangeEnd (hc : cs.head? ≠ some ']')
    (h : (readRangeEnd f first).run cs = .ok (m, rest)) : ∃ v, cs = v ++ rest ∧ CopiedIn v := by
  rw [readRangeEnd, skipBlanks_eq hf, pure_bind] at h
  obtain ⟨c, behind, hnext, hlast⟩ := exists_of_run_bind h
  cases cs with
  | nil => cases hnext
  | cons d cs =>
    cases hnext
    obtain ⟨last, mid, hatom, hend⟩ := exists_of_run_bind hlast
    have hidle : Idle (memberChar f first >>= fun a => memberChar f last >>= fun b =>
        if b < a then (.fail .badRange : Read PUnit) >>= fun _ =>
          pure { cls := .ranges [(a.toNat, b.toNat)] }
        else (pure { cls := .ranges [(a.toNat, b.toNat)] } : Read Nested)) :=
      .bind (idle_memberChar _) fun _ => .bind (idle_memberChar _) fun _ =>
        .ite (idle_fail_bind _ _) (idle_pure _)
    obtain ⟨rfl, -⟩ := hidle.run hend
    obtain ⟨v, rfl, hv⟩ := copiedIn_readAtom hf (fun hd => hc (congrArg some hd)) hatom
    exact ⟨c :: v, rfl, hv⟩

theorem copiedIn_readMemberEnd (h : (readMemberEnd f first).run cs = .ok (m, rest)) :
    ∃ v, cs = v ++ rest ∧ CopiedIn v := by
  rcases readMemberEnd_cases h with ⟨-, h⟩ | ⟨tail, rfl, hrange, h⟩
  · obtain ⟨rfl, -⟩ := (idle_readSingle first).run h
    exact ⟨[], rfl, .nil⟩
  · have hclose : tail.head? ≠ some ']' := by
      rintro hclose
      simp [isSingle, afterHyphen_eq, hf, hclose] at hrange
    obtain ⟨v, hcs, hv⟩ := copiedIn_readRangeEnd hf hclose h
    exact ⟨'-' :: v, congrArg _ hcs, .append (.singleton (by decide) (by decide)) hv⟩

theorem copiedIn_readMember (hc : c ≠ ']') (h : (readMember f c).run cs = .ok (m, rest)) :
    ∃ v, cs = v ++ rest ∧ CopiedIn (c :: v) := by
  rw [readMember_eq, skipBlanks_eq hf] at h
  obtain ⟨a, mid, hatom, hend⟩ := exists_of_run_bind h
  rw [pure_bind] at hend
  obtain ⟨v, rfl, hv⟩ := copiedIn_readAtom hf hc hatom
  obtain ⟨w, rfl, hw⟩ := copiedIn_readMemberEnd hf hend
  exact ⟨v ++ w, (List.append_assoc ..).symm, hv.append hw⟩

/-! ## Steps -/

/-- A step in a class goes on in the class and is copied, if no class opens or ends there. -/
theorem copiedIn_stepBracket {outer : List Bracket} {s : BracketState} (hc : c ≠ ']')
    (hc' : c ≠ '[') (h : (stepBracket f b outer c).run cs = .ok (s, rest)) :
    (∃ b', s = .inside b' outer) ∧ ∃ v, cs = v ++ rest ∧ CopiedIn (c :: v) := by
  have hmember (h : (readMember f c >>= fun m => (pure (.inside (b.push m) outer) :
      Read BracketState)).run cs = .ok (s, rest)) :
      (∃ b', s = .inside b' outer) ∧ ∃ v, cs = v ++ rest ∧ CopiedIn (c :: v) := by
    obtain ⟨m, mid, hm, hpure⟩ := exists_of_run_bind h
    cases hpure
    exact ⟨⟨_, rfl⟩, copiedIn_readMember hf hc hm⟩
  rw [stepBracket, run_bind, run_ahead] at h
  simp only [hf, Bool.false_and, Bool.false_eq_true, if_false] at h
  split at h
  · rename_i op hop
    split at h
    · rename_i hhead
      obtain ⟨cs, rfl⟩ := List.head?_eq_some_iff.mp (beq_iff_eq.mp hhead)
      have hback : c ≠ '\\' := by
        rintro rfl
        cases hop
      cases h
      exact ⟨⟨_, rfl⟩, [c], rfl, .append (.singleton hback hc) (.singleton hback hc)⟩
    · exact hmember h
  · exact hmember h

/-- Where no other bracket opens, a class is copied up to the bracket that closes it. -/
theorem copiedIn_bracketLoop {whole : Nested} {w : List Char}
    (h : (bracketLoop f (.inside b [])).run (w ++ ']' :: rest) = .ok (.closed whole, rest))
    (hw : '[' ∉ w) : CopiedIn w := by
  generalize hcs : w ++ ']' :: rest = cs at h
  generalize hs : BracketState.inside b [] = s at h
  generalize hfin : BracketState.closed whole = fin at h
  refine run_repeatWhile_induction
    (motive := fun s cs fin rest => ∀ b w, BracketState.inside b [] = s →
      BracketState.closed whole = fin → w ++ ']' :: rest = cs → '[' ∉ w → CopiedIn w)
    (fun s cs _ b w hs hfin _ _ => ?_)
    (fun s c cs s' mid fin rest _ hrun hloop ih b w hs hfin hcs hw => ?_) h b w hs hfin hcs hw
  · rw [← hs] at hfin
    cases hfin
  · subst hs
    cases w with
    | nil => exact .nil
    | cons d w =>
      obtain ⟨rfl, rfl⟩ := List.cons.inj hcs
      obtain ⟨hd, hw⟩ := not_or.mp (mt List.mem_cons.mpr hw)
      change (stepBracket f b [] d).run (w ++ ']' :: rest) = .ok (s', mid) at hrun
      change (bracketLoop f s').run mid = .ok (fin, rest) at hloop
      by_cases hclose : d = ']'
      · -- the class would have been closed here
        subst hclose
        rw [run_stepBracket_close] at hrun
        obtain ⟨whole', mid', hvalue, hpure⟩ := exists_of_run_bind hrun
        obtain ⟨rfl, -⟩ := (idle_close b).run hvalue
        obtain ⟨rfl, rfl⟩ := Prod.mk.inj (Except.ok.inj hpure)
        have hrest : w ++ ']' :: rest = rest :=
          (Prod.mk.inj (Except.ok.inj ((run_bracketLoop_closed whole' _).symm.trans hloop))).2
        have hlen := congrArg List.length hrest
        rw [List.length_append, List.length_cons] at hlen
        omega
      · obtain ⟨⟨b', rfl⟩, v, hv, hcopied⟩ := copiedIn_stepBracket hf hclose (Ne.symm hd) hrun
        subst hfin
        obtain ⟨w', rfl, -⟩ := run_bracketLoop rfl hloop
        obtain rfl : w = v ++ w' :=
          List.append_cancel_right (hv.trans (List.append_assoc ..).symm)
        exact hcopied.append (ih b' w' rfl rfl rfl fun hmem => hw (List.mem_append_right _ hmem))

/-! ## Beginnings -/

omit hf in
/-- A negation is taken where it stands. -/
theorem exists_of_run_negation {negated : Bool}
    (h : (skipText "^" : Read Bool).run cs = .ok (negated, rest)) :
    ∃ front, cs = front ++ rest ∧ (front = [] ∧ rest.head? ≠ some '^' ∨ front = ['^']) := by
  rcases skipText_cases (x := '^') rfl h with ⟨-, rfl⟩ | ⟨-, rfl, hnot⟩
  · exact ⟨['^'], rfl, .inr rfl⟩
  · refine ⟨[], rfl, .inl ⟨rfl, fun hhead => ?_⟩⟩
    obtain ⟨tail, htail⟩ := List.head?_eq_some_iff.mp hhead
    exact hnot tail htail

/-- The beginning of a class as the rewriting knows it, and what is copied of the rest of it. -/
theorem exists_of_run_openBracket (h : (openBracket f).run cs = .ok (b, rest)) :
    ∃ v, (classFront cs).2 = v ++ rest ∧ cs = (classFront cs).1 ++ (v ++ rest) ∧ CopiedIn v := by
  have hblanks {cs mid : List Char} (h : (skipBlanks f).run cs = .ok ((), mid)) : cs = mid := by
    rw [skipBlanks_eq hf] at h
    cases h
    rfl
  obtain ⟨_, mid, hskip, hnegation⟩ := exists_of_run_bind h
  clear h
  obtain rfl := hblanks hskip
  obtain ⟨negated, mid, hneg, hmembers⟩ := exists_of_run_bind hnegation
  obtain ⟨front, rfl, hfront⟩ := exists_of_run_negation hneg
  obtain ⟨_, back, hskip', hhyphens⟩ := exists_of_run_bind hmembers
  obtain rfl := hblanks hskip'
  obtain ⟨hyphens, behind, hloop, hend⟩ := exists_of_run_bind hhyphens
  rw [run_collect hf (fun c => c == '-') fun _ => ({ cls := .single '-' } : Nested)] at hloop
  obtain ⟨rfl, rfl⟩ := Prod.mk.inj (Except.ok.inj hloop)
  by_cases hhyphen : mid.head? = some '-'
  · -- a bracket behind hyphens does not stand first
    obtain ⟨tail, rfl⟩ := List.head?_eq_some_iff.mp hhyphen
    have hclass : classFront (front ++ '-' :: tail) = (front, '-' :: tail) :=
      classFront_append (hfront.imp_left fun h => ⟨h.1, by simp⟩) (by simp)
    rw [if_pos (by simp)] at hend
    cases hend
    have hsplit := List.takeWhile_append_dropWhile (p := fun c => c == '-') (l := '-' :: tail)
    rw [hclass]
    refine ⟨('-' :: tail).takeWhile (fun c => c == '-'), hsplit.symm, by simp only [hsplit],
      .of_plain fun c hc => ?_⟩
    obtain rfl : c = '-' := by simpa using List.all_eq_true.mp List.all_takeWhile c hc
    decide
  · have hnone : mid.takeWhile (fun c => c == '-') = [] := by
      cases mid with
      | nil => rfl
      | cons c tail =>
        exact List.takeWhile_cons_of_neg fun h => hhyphen (congrArg some (eq_of_beq h))
    have hstay : mid.dropWhile (fun c => c == '-') = mid := by
      simpa [hnone] using List.takeWhile_append_dropWhile (p := fun c => c == '-') (l := mid)
    rw [hnone, hstay] at hend
    obtain ⟨closes, last, hclose, hpure⟩ := exists_of_run_bind hend
    rcases skipText_cases (x := ']') rfl hclose with ⟨rfl, rfl⟩ | ⟨rfl, rfl, hnot⟩
    · obtain ⟨_, rest', hskip'', hpure⟩ := exists_of_run_bind hpure
      obtain rfl := hblanks hskip''
      cases hpure
      rw [classFront_close (hfront.imp_left And.left)]
      exact ⟨[], rfl, by simp, .nil⟩
    · cases hpure
      have hfirst : mid.head? ≠ some ']' := fun hhead =>
        let ⟨tail, htail⟩ := List.head?_eq_some_iff.mp hhead
        hnot tail htail
      rw [classFront_append hfront hfirst]
      exact ⟨[], rfl, rfl, .nil⟩

/-- A class is copied if no other bracket opens in it, and the rewriting goes on behind it outside
of classes. -/
theorem dropCaptures_of_readBracket {u : List Char}
    (h : (readBracket f).run (u ++ rest) = .ok (m, rest)) (hu : '[' ∉ u) :
    dropCaptures false ('[' :: (u ++ rest)) = '[' :: (u ++ dropCaptures false rest) := by
  rw [readBracket_eq] at h
  obtain ⟨b, mid, hopen, hend⟩ := exists_of_run_bind h
  obtain ⟨s, behind, hloop, hwhole⟩ := exists_of_run_bind hend
  cases s with
  | inside => cases hwhole
  | closed whole =>
    have hend : (Except.ok (whole, behind) : Except Error _) = .ok (m, rest) := hwhole
    obtain ⟨rfl, rfl⟩ := Prod.mk.inj (Except.ok.inj hend)
    obtain ⟨w, rfl, -⟩ := run_bracketLoop rfl hloop
    obtain ⟨v, hback, hcs, hv⟩ := exists_of_run_openBracket hf hopen
    rw [dropCaptures_class, hback]
    generalize (classFront (u ++ behind)).1 = front at hcs ⊢
    obtain rfl : u = front ++ (v ++ (w ++ [']'])) := by
      refine List.append_cancel_right (hcs.trans ?_)
      simp only [List.append_assoc, List.singleton_append]
    have hw : CopiedIn w := copiedIn_bracketLoop hf hloop fun hmem => hu (by simp [hmem])
    rw [hv, hw, dropCaptures_close]
    simp only [List.append_assoc, List.singleton_append]

end PathRoute.Requirement
