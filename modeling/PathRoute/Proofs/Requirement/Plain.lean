import Mathlib.Data.Option.Basic
import PathRoute.Proofs.Regex.Lexeme
import PathRoute.Template.Requirement

/-!
# What the rewriting of requirements copies

All characters are copied and leave the rewriting where it is, but for parentheses, brackets and
what stands behind a backslash. Without the verbose flag no escape, count or change of flags takes
one of these behind its first characters.
-/

namespace PathRoute

open Regex Reader

namespace Requirement

/-! ## The rewriting, case by case -/

/-- The rewriting copies the character wherever it stands. -/
def IsPlain (c : Char) : Prop := c ∉ ['\\', '[', '(', ']']

instance : DecidablePred IsPlain := fun c =>
  inferInstanceAs (Decidable (c ∉ ['\\', '[', '(', ']']))

variable {b : Bool} {c : Char} {u cs : List Char}

theorem plain_of_all (h : cs.all (IsPlain ·) = true) : ∀ c ∈ cs, IsPlain c := by simpa using h

@[simp] theorem dropCaptures_nil (b : Bool) : dropCaptures b [] = [] := by rw [dropCaptures]

theorem dropCaptures_cons (h : IsPlain c) (cs : List Char) :
    dropCaptures b (c :: cs) = c :: dropCaptures b cs := by
  rw [dropCaptures.eq_def]
  split <;> simp_all [IsPlain]

/-- Outside of classes a closing bracket stands for itself. -/
theorem dropCaptures_outside (h : c ∉ ['\\', '[', '(']) (cs : List Char) :
    dropCaptures false (c :: cs) = c :: dropCaptures false cs := by
  rw [dropCaptures.eq_def]
  split <;> simp_all

theorem dropCaptures_append (h : ∀ c ∈ u, IsPlain c) (cs : List Char) :
    dropCaptures b (u ++ cs) = u ++ dropCaptures b cs := by
  induction u with
  | nil => rfl
  | cons c u ih =>
    obtain ⟨hc, hu⟩ := List.forall_mem_cons.mp h
    rw [List.cons_append, dropCaptures_cons hc, ih hu, List.cons_append]

theorem dropCaptures_escape (c : Char) (cs : List Char) :
    dropCaptures b ('\\' :: c :: cs) = '\\' :: c :: dropCaptures b cs := by
  rw [dropCaptures]

theorem dropCaptures_close (cs : List Char) :
    dropCaptures b (']' :: cs) = ']' :: dropCaptures false cs := by
  rw [dropCaptures]

theorem dropCaptures_class (cs : List Char) :
    dropCaptures false ('[' :: cs) =
      '[' :: ((classFront cs).1 ++ dropCaptures true (classFront cs).2) := by
  rw [dropCaptures]
  simp

theorem dropCaptures_capture (h : cs.head? ≠ some '?') :
    dropCaptures false ('(' :: cs) = opening ++ dropCaptures false cs := by
  rw [dropCaptures]
  simp [h]

theorem dropCaptures_named (h : cs.head? = some '?') (hnamed : opensNamed cs = true) :
    dropCaptures false ('(' :: cs) = opening ++ dropCaptures false (afterName cs) := by
  rw [dropCaptures]
  simp [h, hnamed]

theorem dropCaptures_group (h : cs.head? = some '?') (hnamed : opensNamed cs = false) :
    dropCaptures false ('(' :: cs) = '(' :: dropCaptures false cs := by
  rw [dropCaptures]
  simp [h, hnamed]

/-- The rewriting keeps the first character. -/
theorem head_dropCaptures (cs : List Char) : (dropCaptures b cs).head? = cs.head? := by
  rw [dropCaptures.eq_def]
  split
  case h_5 =>
    split
    · rfl
    · split
      · rfl
      · split <;> rfl
  case h_3 => split <;> rfl
  all_goals rfl

/-! ## The front of a class -/

/-- A closing bracket that stands first, with or without a negation, belongs to the front. -/
theorem classFront_close {front tail : List Char} (hfront : front = [] ∨ front = ['^']) :
    classFront (front ++ ']' :: tail) = (front ++ [']'], tail) := by
  rcases hfront with rfl | rfl <;> rfl

/-- Otherwise the front is the negation alone. -/
theorem classFront_append {front back : List Char}
    (hfront : front = [] ∧ back.head? ≠ some '^' ∨ front = ['^']) (hback : back.head? ≠ some ']') :
    classFront (front ++ back) = (front, back) := by
  rcases hfront with ⟨rfl, hneg⟩ | rfl
  all_goals
    unfold classFront
    split <;> simp_all

theorem classFront_append_rest (cs : List Char) : (classFront cs).1 ++ (classFront cs).2 = cs := by
  fun_cases classFront cs <;> rfl

end Requirement

namespace Property

open Requirement

/-! ## Names of properties -/

/-- A name without an "is" in front. -/
def afterIs (name : List Char) : List Char :=
  match name with
  | i :: s :: rest => if i.toLower == 'i' && s.toLower == 's' then rest else name
  | _ => name

/-- What is left of a name in loose form. -/
def keptOf (name : List Char) : List Char :=
  (name.filter fun c => c.toNat < 0x80 && !(c == ' ' || c == '_' || c == '-')).map Char.toLower

theorem looseName_eq (name : List Char) :
    looseName name =
      if (afterIs name).length < name.length && keptOf (afterIs name) == ['c'] then "isc"
      else .ofList (keptOf (afterIs name)) := rfl

/-- The loose form of a name keeps what has a meaning for the rewriting. -/
theorem mem_looseName {c : Char} {name : List Char} (hc : ¬ IsPlain c) (h : c ∈ name) :
    c ∈ (looseName name).toList := by
  have hcases : c = '\\' ∨ c = '[' ∨ c = '(' ∨ c = ']' := by
    simpa using Decidable.not_not.mp hc
  have hlower : c.toLower = c := by rcases hcases with rfl | rfl | rfl | rfl <;> rfl
  have hkept : (c.toNat < 0x80 && !(c == ' ' || c == '_' || c == '-')) = true := by
    rcases hcases with rfl | rfl | rfl | rfl <;> rfl
  have hfront : ∀ d : Char, (d.toLower == 'i' || d.toLower == 's') = true → c ≠ d := by
    rintro d hd rfl
    rw [hlower] at hd
    rcases hcases with rfl | rfl | rfl | rfl <;> cases hd
  have hafter : c ∈ afterIs name := by
    unfold afterIs
    split
    · rename_i i s rest
      split
      · rename_i his
        rw [Bool.and_eq_true] at his
        simpa [hfront i (by simp [his.1]), hfront s (by simp [his.2])] using h
      · exact h
    · exact h
  have hmem : c ∈ keptOf (afterIs name) := by
    rw [← hlower]
    exact List.mem_map_of_mem (List.mem_filter.mpr ⟨hafter, hkept⟩)
  rw [looseName_eq]
  split
  · rename_i hshort
    rw [eq_of_beq (Bool.and_eq_true_iff.mp hshort).2, List.mem_singleton] at hmem
    subst hmem
    exact absurd (by decide) hc
  · rwa [String.toList_ofList]

theorem plain_of_looseName {name : List Char} (h : ∀ c ∈ (looseName name).toList, IsPlain c) :
    ∀ c ∈ name, IsPlain c := fun c hc =>
  Decidable.byContradiction fun hplain => hplain (h c (mem_looseName hplain hc))

/-- Whether no byte of a text is a character that is not plain. The bytes of a literal are at hand,
its characters have to be decoded. -/
def hasPlainBytes (text : String) : Bool :=
  text.toByteArray.data.toList.all (· ∉ [40, 91, 92, 93])

theorem plain_of_hasPlainBytes {text : String} (h : hasPlainBytes text = true) :
    ∀ c ∈ text.toList, IsPlain c := by
  have hbytes : ∀ d ∈ text.toList, ∀ b ∈ String.utf8EncodeChar d, b ∉ [40, 91, 92, 93] := by
    intro d hd b hb
    have hmem : b ∈ text.toByteArray.data.toList := by
      rw [← String.utf8Encode_toList, List.utf8Encode, List.data_toByteArray]
      simpa using ⟨d, hd, hb⟩
    simpa using List.all_eq_true.mp h b hmem
  intro c hc hspecial
  simp only [List.mem_cons, List.not_mem_nil, or_false] at hspecial
  rcases hspecial with rfl | rfl | rfl | rfl
  all_goals exact absurd (by decide) (hbytes _ hc _ (List.mem_singleton_self _))

/-- The names that stand in a table are plain if all of its names are. -/
theorem plain_of_find? {α : Type} {table : List α} {names : α → List String} {a : α} {name : String}
    (hplain : (table.all fun a => (names a).all hasPlainBytes) = true)
    (h : table.find? (fun a => (names a).contains name) = some a) :
    ∀ c ∈ name.toList, IsPlain c := by
  have hnames := List.all_eq_true.mp hplain a (List.mem_of_find?_eq_some h)
  exact plain_of_hasPlainBytes (List.all_eq_true.mp hnames name (by simpa using List.find?_some h))

theorem plain_of_category? {name : String} {a : CharClass} (h : category? name = some a) :
    ∀ c ∈ name.toList, IsPlain c := by
  unfold category? at h
  split at h
  · exact plain_of_all (by decide)
  · exact plain_of_all (by decide)
  · exact plain_of_all (by decide)
  · obtain ⟨cs, hcs, -⟩ := Option.map_eq_some_iff.mp h
    obtain ⟨e, he, -⟩ := Option.map_eq_some_iff.mp hcs
    exact plain_of_find? (by decide +kernel) he

theorem plain_of_script {name : String} {s : Script} (h : Script.named? name = some s) :
    ∀ c ∈ name.toList, IsPlain c :=
  plain_of_find? (by decide +kernel) h

theorem plain_of_lookup? {table : List (List String × CharClass)} {name : String} {a : CharClass}
    (hplain : (table.all fun e => e.1.all hasPlainBytes) = true)
    (h : lookup? table name = some a) : ∀ c ∈ name.toList, IsPlain c := by
  obtain ⟨e, he, -⟩ := Option.map_eq_some_iff.mp h
  exact plain_of_find? hplain he

theorem plain_of_version {name : String} {r : CodeRanges} (h : Version.ranges? name = some r) :
    ∀ c ∈ name.toList, IsPlain c := by
  obtain ⟨last, hlast, -⟩ := Option.bind_eq_some_iff.mp h
  exact plain_of_find? (by decide +kernel) hlast

theorem plain_of_named? {name : List Char} {a : CharClass} (h : named? name = some a) :
    ∀ c ∈ name, IsPlain c := by
  refine plain_of_looseName ?_
  simp only [named?, Option.orElse_eq_some] at h
  rcases h with h | ⟨-, h | ⟨-, h⟩⟩
  · exact plain_of_lookup? (by decide +kernel) h
  · exact plain_of_category? h
  · obtain ⟨s, hs, -⟩ := Option.map_eq_some_iff.mp h
    exact plain_of_script hs

theorem plain_of_valued? {property value : List Char} {a : CharClass}
    (h : valued? property value = some a) :
    (∀ c ∈ property, IsPlain c) ∧ ∀ c ∈ value, IsPlain c := by
  unfold valued? at h
  dsimp only at h
  split at h
  case h_14 => cases h
  all_goals
    rename_i hname
    refine ⟨plain_of_looseName (hname ▸ plain_of_all (by decide)), plain_of_looseName ?_⟩
  -- the names of the properties in their order: categories, scripts, versions, breaks
  · exact plain_of_category? h
  · exact plain_of_category? h
  iterate 4
    obtain ⟨s, hs, -⟩ := Option.map_eq_some_iff.mp h
    exact plain_of_script hs
  · obtain ⟨r, hr, -⟩ := Option.map_eq_some_iff.mp h
    exact plain_of_version hr
  all_goals exact plain_of_lookup? (by decide +kernel) h

end Property

namespace Regex

open Requirement

attribute [local instance] Reader.lawfulMonad

variable {f : Flags} {cs rest : List Char}

theorem plain_of_cutAt {sep name front back : List Char} (h : cutAt sep name = some (front, back))
    (hsep : ∀ c ∈ sep, IsPlain c) (hfront : ∀ c ∈ front, IsPlain c)
    (hback : ∀ c ∈ back, IsPlain c) :
    ∀ c ∈ name, IsPlain c := by
  induction name generalizing front with
  | nil => cases h
  | cons c name ih =>
    simp only [cutAt] at h
    split at h
    · rename_i hstarts
      obtain ⟨rfl, rfl⟩ := Prod.mk.inj (Option.some.inj h)
      obtain ⟨tail, htail⟩ := List.isPrefixOf_iff_prefix.mp hstarts
      rw [← htail] at hback ⊢
      rw [List.drop_left] at hback
      exact List.forall_mem_append.mpr ⟨hsep, hback⟩
    · obtain ⟨⟨front', back'⟩, hcut, heq⟩ := Option.map_eq_some_iff.mp h
      obtain ⟨rfl, rfl⟩ := Prod.mk.inj heq
      obtain ⟨hc, hfront⟩ := List.forall_mem_cons.mp hfront
      exact List.forall_mem_cons.mpr ⟨hc, ih hcut hfront⟩

theorem plain_of_propertyClass? {name : List Char} {a : CharClass}
    (h : propertyClass? name = some a) : ∀ c ∈ name, IsPlain c := by
  unfold propertyClass? at h
  split at h
  · rename_i property value hcut
    obtain ⟨hproperty, hvalue⟩ := Property.plain_of_valued? h
    simp only [Option.orElse_eq_some] at hcut
    rcases hcut with hcut | ⟨-, hcut | ⟨-, hcut⟩⟩
    all_goals exact plain_of_cutAt hcut (plain_of_all (by decide)) hproperty hvalue
  · exact Property.plain_of_named? h

/-! ## Escapes -/

theorem skipBlanks_eq (hf : f.verbose = false) : skipBlanks f = pure () := by
  simp [skipBlanks, hf]

theorem plain_of_hexValue? {c : Char} {d : Nat} (h : hexValue? c = some d) : IsPlain c := by
  intro hc
  simp only [List.mem_cons, List.not_mem_nil, or_false] at hc
  rcases hc with rfl | rfl | rfl | rfl <;> cases h

section

variable (hf : f.verbose = false)

include hf

theorem takes_skipBlanks : Takes IsPlain (skipBlanks f) := by
  rw [skipBlanks_eq hf]
  exact takes_pure _

theorem takes_readHex (digits value : Nat) : Takes IsPlain (readHex f digits value) := by
  induction digits generalizing value with
  | zero => exact takes_pure _
  | succ n ih =>
    refine takes_next fun c => ?_
    cases hc : hexValue? c with
    | none => exact .inr fun _ _ h => by cases h
    | some d =>
      exact .inl ⟨plain_of_hexValue? hc, .bind (takes_skipBlanks hf) fun _ => ih _⟩

theorem takes_readBracedHex : Takes IsPlain (readBracedHex f) := by
  refine takes_repeatWhile_next (fun value c _ => ?_) (fun c hc => ?_) (fun value c => ?_) _
  · cases hc : hexValue? c with
    | none => exact .inr fun _ _ h => by cases h
    | some d =>
      exact .inl ⟨plain_of_hexValue? hc, .bind (takes_skipBlanks hf) fun _ => takes_pure _⟩
  · obtain rfl : c = '}' := by simpa using hc
    decide
  · refine .bind (takes_skipBlanks hf) fun _ => ?_
    split
    · exact (idle_fail _).takes
    · exact takes_pure _

theorem takes_readCode (digits : Nat) : Takes IsPlain (readCode f digits) := by
  refine .bind (takes_skipBlanks hf) fun _ => takes_ifPeek (by decide) ?_ ?_
  · exact .bind (takes_skipBlanks hf) fun _ => .bind (takes_readBracedHex hf) fun n =>
      .bind (idle_charAt n).takes fun _ => takes_pure _
  · exact .bind (takes_readHex hf _ _) fun n => .bind (idle_charAt n).takes fun _ => takes_pure _

/-- Without blanks a loop that collects takes the characters for which its test holds. -/
theorem run_collect {α : Type} (p : Char → Bool) (g : Char → α) (xs : List α) (cs : List Char) :
    (repeatWhile (fun _ c => p c) (fun xs c => do skipBlanks f; pure (g c :: xs)) xs).run cs =
      .ok ((cs.takeWhile p).reverse.map g ++ xs, cs.dropWhile p) := by
  simp only [skipBlanks_eq hf, pure_bind]
  induction cs generalizing xs with
  | nil => exact run_repeatWhile_nil ..
  | cons c cs ih =>
    by_cases hc : p c = true
    · rw [run_repeatWhile_of hc, run_bind, run_pure]
      simp only [ih, List.takeWhile_cons_of_pos hc, List.dropWhile_cons_of_pos hc,
        List.reverse_cons, List.map_append, List.map_cons, List.map_nil, List.append_assoc,
        List.singleton_append]
    · rw [run_repeatWhile_of_not hc, List.takeWhile_cons_of_neg hc, List.dropWhile_cons_of_neg hc]
      rfl

omit hf in
theorem exists_of_run_foundProperty {negated : Bool} {found : Option CharClass} {a : Atom}
    (h : (foundProperty f negated found).run cs = .ok (a, rest)) :
    rest = cs ∧ ∃ cls, found = some cls := by
  refine ⟨((idle_foundProperty negated found).run h).1, ?_⟩
  cases found with
  | some cls => exact ⟨cls, rfl⟩
  | none =>
    unfold foundProperty at h
    dsimp only at h
    split at h
    · rw [fail_bind] at h
      cases h
    · cases h

omit hf in
theorem readProperty_eq (negated : Bool) :
    readProperty f negated = skipBlanks f >>= fun _ => next .badEscape >>= fun c =>
      if c == '{' then
        skipBlanks f >>= fun _ => repeatWhile (fun _ c => c != '}')
          (fun name c => do skipBlanks f; pure (c :: name)) [] >>= fun name =>
            next .badEscape >>= fun _ => foundProperty f negated (propertyClass? name.reverse)
      else if c == '\\' then .fail .badEscape
      else skipBlanks f >>= fun _ => foundProperty f negated (Property.named? [c]) := by
  unfold readProperty
  refine bind_congr fun _ => bind_congr fun c => ?_
  dsimp only
  split
  · refine bind_congr fun _ => bind_congr fun name => bind_congr fun _ => ?_
    rw [pure_bind]
    rfl
  · split
    · rw [fail_bind]
    · refine bind_congr fun _ => ?_
      rw [pure_bind]
      rfl

theorem takes_readProperty (negated : Bool) : Takes IsPlain (readProperty f negated) := by
  rw [readProperty_eq]
  refine .bind (takes_skipBlanks hf) fun _ => takes_next fun c => ?_
  split
  · rename_i hc
    obtain rfl : c = '{' := by simpa using hc
    refine .inl ⟨by decide, .bind (takes_skipBlanks hf) fun _ => ?_⟩
    intro a cs rest h
    obtain ⟨name, mid, hname, hrest⟩ := exists_of_run_bind h
    have hstop := not_of_run_repeatWhile hname
    rw [run_collect hf (fun c => c != '}') (fun c => c)] at hname
    obtain ⟨rfl, rfl⟩ := Prod.mk.inj (Except.ok.inj hname)
    obtain ⟨d, mid', hnext, hfound⟩ := exists_of_run_bind hrest
    obtain ⟨rfl, cls, hcls⟩ := exists_of_run_foundProperty hfound
    have hplain := plain_of_propertyClass? hcls
    rw [List.append_nil, List.map_id', List.reverse_reverse] at hplain
    cases hdrop : cs.dropWhile (fun c => c != '}') with
    | nil =>
      rw [hdrop] at hnext
      cases hnext
    | cons x tail =>
      rw [hdrop] at hnext hstop
      cases hnext
      obtain rfl : d = '}' := by simpa using hstop d rfl
      refine ⟨cs.takeWhile (fun c => c != '}') ++ ['}'], ?_,
        List.forall_mem_append.mpr ⟨hplain, plain_of_all (by decide)⟩⟩
      rw [List.append_assoc, List.singleton_append, ← hdrop, List.takeWhile_append_dropWhile]
  · split
    · exact .inr fun _ _ h => by cases h
    · cases hcls : Property.named? [c] with
      | none =>
        refine .inr fun cs b h => ?_
        obtain ⟨_, _, -, hfound⟩ := exists_of_run_bind h
        obtain ⟨-, cls, hcls⟩ := exists_of_run_foundProperty hfound
        cases hcls
      | some cls =>
        refine .inl ⟨Property.plain_of_named? hcls c (by simp), ?_⟩
        exact .bind (takes_skipBlanks hf) fun _ => (idle_foundProperty _ _).takes

theorem takes_readEdgeName : Takes IsPlain (readEdgeName f) := by
  have hedge : ∀ c, isEdgeChar c = true → IsPlain c := by
    rintro c hc hmem
    simp only [List.mem_cons, List.not_mem_nil, or_false] at hmem
    rcases hmem with rfl | rfl | rfl | rfl <;> cases hc
  refine .bind (takes_repeatWhile (fun name c hc => .inl ⟨hedge c hc, ?_⟩) _) fun name =>
    takes_next fun c => ?_
  · exact .bind (takes_skipBlanks hf) fun _ => takes_pure _
  · split
    · exact .inr fun _ _ h => by cases h
    · rename_i hc
      obtain rfl : c = '}' := by simpa using hc
      refine .inl ⟨by decide, Idle.takes ?_⟩
      unfold edgeNamed
      split <;> first | exact idle_pure _ | exact idle_fail _

theorem takes_readWordEdge : Takes IsPlain (readWordEdge f) := by
  intro e cs rest h
  by_cases hcs : ∃ r, cs = '{' :: r
  · obtain ⟨r, rfl⟩ := hcs
    obtain ⟨c, tail, hblanks⟩ := exists_of_run_readWordEdge_brace h
    rw [run_readWordEdge_brace hblanks] at h
    split at h
    · rw [skipBlanks_eq hf] at hblanks
      cases hblanks
      obtain ⟨u, hu, hplain⟩ := takes_readEdgeName hf e h
      exact ⟨'{' :: u, congrArg _ hu, List.forall_mem_cons.mpr ⟨by decide, hplain⟩⟩
    · cases h
      exact ⟨[], rfl, by simp⟩
  · rw [run_readWordEdge_of_ne fun r hr => hcs ⟨r, hr⟩] at h
    cases h
    exact ⟨[], rfl, by simp⟩

omit hf in
theorem plain_of_run_next_bind {α : Type} {e : Error} {k : Char → Read α} {a : α}
    (hk : ∀ c, Takes IsPlain (k c)) (h : (next e >>= k).run cs = .ok (a, rest)) :
    ∃ c u, cs = c :: (u ++ rest) ∧ ∀ c ∈ u, IsPlain c := by
  cases cs with
  | nil => cases h
  | cons c cs =>
    rw [run_bind, run_next_cons] at h
    obtain ⟨u, rfl, hu⟩ := hk c a h
    exact ⟨c, u, rfl, hu⟩

/-- Behind the character that a backslash stands before, an escape takes plain ones. -/
theorem plain_of_run_readEscape {a : Atom} (h : (readEscape f).run cs = .ok (a, rest)) :
    ∃ c u, cs = c :: (u ++ rest) ∧ ∀ c ∈ u, IsPlain c := by
  refine plain_of_run_next_bind (fun c => ?_) h
  dsimp only
  split
  case h_20 => exact .bind (takes_readWordEdge hf) fun _ => takes_pure _
  case h_24 =>
    split
    · exact takes_pure _
    · split <;> exact (idle_fail _).takes
  all_goals
    first
    | exact takes_pure _
    | exact takes_readCode hf _
    | exact takes_readProperty hf _
    | exact (idle_perlClass _ _ _).takes

/-! ## Counts and flags -/

omit hf in
theorem plain_of_isBlank {c : Char} (h : isBlank c = true) : IsPlain c := by
  intro hmem
  simp only [List.mem_cons, List.not_mem_nil, or_false] at hmem
  revert h
  rcases hmem with rfl | rfl | rfl | rfl <;> decide

theorem takes_readCount : Takes IsPlain (readCount f) := by
  have hdigit : ∀ c : Char, c.isDigit = true → IsPlain c := by
    rintro c hc hmem
    simp only [List.mem_cons, List.not_mem_nil, or_false] at hmem
    rcases hmem with rfl | rfl | rfl | rfl <;> cases hc
  have hblanks := takes_skipBlanks hf
  refine .bind (takes_skipWhile fun c => plain_of_isBlank) fun _ =>
    .bind (takes_repeatWhile (fun _ c hc => .inl ⟨hdigit c hc, ?_⟩) _) fun n =>
      .bind (takes_repeatWhile (fun _ c hc => .inl ⟨plain_of_isBlank hc, hblanks⟩) _) fun _ => ?_
  · exact .bind hblanks fun _ => takes_pure _
  · dsimp only
    split
    · exact (idle_fail_bind _ _).takes
    · exact takes_pure _

theorem takes_readCounts : Takes IsPlain (readCounts f) := by
  have hblanks := takes_skipBlanks hf
  refine .bind hblanks fun _ => .bind (takes_readCount hf) fun least => takes_next fun c => ?_
  cases least with
  | none => exact .inr fun _ _ h => by cases h
  | some least =>
    dsimp only
    split
    · rename_i hc
      obtain rfl : c = '}' := by simpa using hc
      exact .inl ⟨by decide, takes_pure _⟩
    · split
      · exact .inr fun _ _ h => by rw [fail_bind] at h; cases h
      · rename_i hc
        obtain rfl : c = ',' := by simpa using hc
        refine .inl ⟨by decide, .bind hblanks fun _ => .bind (takes_skipText rfl (by decide))
          fun done => ?_⟩
        split
        · exact takes_pure _
        · refine .bind (takes_readCount hf) fun most => ?_
          cases most with
          | none => exact (idle_fail _).takes
          | some most =>
            refine takes_next fun d => ?_
            split
            · exact .inr fun _ _ h => by rw [fail_bind] at h; cases h
            · rename_i hd
              have : d = '}' := by simp at hd; exact hd.1
              subst this
              exact .inl ⟨by decide, takes_pure _⟩

/-- Where no group, class or escape begins, a lexeme takes plain characters. -/
theorem takes_readLexeme {c : Char} (hc : c ∉ ['\\', '[', '(']) :
    Takes IsPlain (readLexeme f c) := by
  have hlazy : Takes IsPlain (skipText "?" : Read Bool) := takes_skipText rfl (by decide)
  simp only [readLexeme, hf, Bool.false_and, Bool.false_eq_true, if_false]
  unfold readMark
  split
  · exact absurd hc (by decide)
  · exact takes_pure _
  · exact takes_pure _
  · exact absurd hc (by decide)
  · exact .bind hlazy fun _ => takes_pure _
  · exact .bind hlazy fun _ => takes_pure _
  · exact .bind hlazy fun _ => takes_pure _
  · exact .bind (takes_readCounts hf) fun _ => .bind (takes_skipBlanks hf) fun _ =>
      .bind hlazy fun _ => takes_pure _
  · exact absurd hc (by decide)
  · exact (Idle.ite (idle_pure _) (idle_fail _)).takes
  · exact takes_pure _
  · exact takes_pure _
  · exact .bind (idle_literal c false).takes fun _ => takes_pure _

end

theorem takes_readFlags : Takes IsPlain readFlags := by
  have hletter : ∀ c ∈ Flags.letters, IsPlain c := plain_of_all (by decide)
  refine .bind (takes_repeatWhile (fun fs c _ => ?_) _) fun fs => ?_
  · by_cases hc : c = '-'
    · subst hc
      refine .inl ⟨by decide, Idle.takes ?_⟩
      exact (idle_fail _).ite (idle_pure _)
    · by_cases hmem : c ∈ Flags.letters
      · refine .inl ⟨hletter c hmem, Idle.takes ?_⟩
        split
        · exact (idle_fail _).ite (idle_pure _)
        · exact (idle_pure _).ite (idle_fail _)
      · refine .inr fun _ _ h => ?_
        simp only [beq_iff_eq, hc, if_false, List.contains_iff_mem, hmem, Bool.and_eq_true,
          false_and] at h
        cases h
  · dsimp only
    split
    · exact (idle_fail_bind _ _).takes
    · exact takes_pure _

theorem head_of_run_readFlags {fs : FlagList} (h : readFlags.run cs = .ok (fs, rest)) :
    ∀ c, rest.head? = some c → c = ':' ∨ c = ')' := by
  obtain ⟨fs', mid, hloop, h⟩ := exists_of_run_bind h
  dsimp only at h
  split at h
  · rw [fail_bind] at h
    cases h
  · cases h
    intro c hc
    have hstop : ¬ (c != ':' && c != ')') = true := not_of_run_repeatWhile hloop c hc
    by_cases hcolon : c = ':'
    · exact .inl hcolon
    · simpa [hcolon] using hstop

theorem plain_of_run_readSetting {l : Lexeme} (h : readSetting.run cs = .ok (l, rest)) :
    (∃ u, cs = u ++ rest ∧ ∀ c ∈ u, IsPlain c) ∧ ∀ name, l ≠ .capture name := by
  obtain ⟨fs, mid, hflags, hnext⟩ := exists_of_run_bind h
  obtain ⟨u, rfl, hu⟩ := takes_readFlags fs hflags
  cases mid with
  | nil => cases hnext
  | cons c mid =>
    have hc : IsPlain c := by
      rcases head_of_run_readFlags hflags c rfl with rfl | rfl <;> decide
    rw [run_bind, run_next_cons] at hnext
    dsimp only at hnext
    have hend : mid = rest ∧ ∀ name, l ≠ .capture name := by
      split at hnext
      · cases hnext
        exact ⟨rfl, by simp⟩
      · split at hnext
        · rw [fail_bind] at hnext
          cases hnext
        · cases hnext
          exact ⟨rfl, by simp⟩
    obtain ⟨rfl, hl⟩ := hend
    exact ⟨⟨u ++ [c], by simp, by simpa [or_imp, forall_and] using ⟨hu, hc⟩⟩, hl⟩

/-- The name of a group goes up to the first angle bracket. -/
theorem afterName_of_run_readNamed {l : Lexeme} (h : readNamed.run cs = .ok (l, rest)) :
    afterName cs = rest ∧ ∃ name, l = .capture (some name) := by
  obtain ⟨name, mid, hname, hl⟩ := exists_of_run_bind h
  cases hl
  refine ⟨?_, name, rfl⟩
  obtain ⟨letters, mid, hloop, hnext⟩ := exists_of_run_bind hname
  obtain rfl := rest_eq_of_run_repeatWhile (p := fun c => c != '>')
    (fun name c => Idle.ite (idle_pure _) (idle_fail _)) hloop
  obtain ⟨c, mid, hc, hrest⟩ := exists_of_run_bind hnext
  rw [afterName]
  cases hdrop : cs.dropWhile (fun c => c != '>') with
  | nil =>
    rw [hdrop] at hc
    cases hc
  | cons d tail =>
    rw [hdrop] at hc
    cases hc
    dsimp only at hrest
    split at hrest
    · rw [fail_bind] at hrest
      cases hrest
    · cases hrest
      rfl

end Regex

end PathRoute
