import Mathlib.Data.Nat.Find
import Mathlib.Data.String.Basic
import PathRoute.Proofs.Template.Brackets

/-!
# The fault of a text

Which texts are templates, and what is wrong with the others, told by the text alone. Going through
it from the left, the first closing bracket without an opening one or the first name that occurs
again is to blame, and if there is none the last opening bracket that is not closed.
-/

namespace PathRoute

namespace Utf8

theorem length_encodeChar (c : Char) : (encodeChar c).length = c.utf8Size := by
  have hnat : ∀ n, c.val ≤ n ↔ c.toNat ≤ n.toNat := fun _ => UInt32.le_iff_toNat_le
  have h₁ : c.toNat < 0x80 ↔ c.toNat ≤ 127 := by omega
  have h₂ : c.toNat < 0x800 ↔ c.toNat ≤ 2047 := by omega
  have h₃ : c.toNat < 0x10000 ↔ c.toNat ≤ 65535 := by omega
  simp only [encodeChar, Char.utf8Size, hnat, UInt32.toNat_ofNatLT, h₁, h₂, h₃]
  split_ifs <;> rfl

theorem length_encode (cs : List Char) :
    (encode cs).length = (String.ofList cs).utf8ByteSize := by
  rw [String.utf8ByteSize_ofList]
  induction cs with
  | nil => rfl
  | cons c cs ih =>
    rw [String.utf8Len_cons, ← ih, ← length_encodeChar, Nat.add_comm]
    simp [encode]

end Utf8

namespace Template

/-- What is wrong at a place of a text, between what stands before it and what follows: a bracket
closes where all that were opened are closed, or a token repeats a name. -/
inductive Offence (before : List Char) : List Char → Fault → Prop where
  | closes {after : List Char} : AllClosed before →
      Offence before (']' :: after) (.unexpectedClose (String.ofList before).utf8ByteSize)
  | repeats {name : String} {after : List Char} : IsName name.toList → token name <:+: before →
      Offence before (token name ++ after) (.duplicatePlaceholder name)

/-- Nothing is wrong at the places among the first characters of a text. -/
def CleanTo (n : Nat) (text : List Char) : Prop :=
  ∀ before after fault, text = before ++ after → before.length < n → ¬Offence before after fault

/-- Nothing is wrong at any place of a text. -/
def Clean (text : List Char) : Prop :=
  ∀ before after fault, text = before ++ after → ¬Offence before after fault

/-- The fault of a text: the first offence, or else the last bracket that stays open. -/
inductive Blamed (text : List Char) : Fault → Prop where
  | offence {before after : List Char} {fault : Fault} : text = before ++ after →
      Offence before after fault → CleanTo before.length text → Blamed text fault
  | unclosed {before after : List Char} : Clean text →
      text = before ++ '[' :: after → StaysOpen after → AllClosed after →
      Blamed text (.unclosedGroup (String.ofList before).utf8ByteSize)

variable {before after front text : List Char} {fault f : Fault} {name other : String}
  {openings : List Nat} {seen : List String} {c : Char}

/-! ## One fault only -/

theorem token_eq (name : String) : token name = '<' :: (name.toList ++ ['>']) := rfl

theorem token_append_inj {xs ys : List Char} (hn : IsName name.toList) (ho : IsName other.toList)
    (h : token name ++ xs = token other ++ ys) : name = other := by
  have hprefix : (token name).isPrefixOf (token other ++ ys) = true := by
    rw [List.isPrefixOf_iff_prefix, ← h]
    exact List.prefix_append _ _
  rw [isPrefixOf_token hn.isUnbracketed ho.isUnbracketed.2] at hprefix
  exact of_decide_eq_true hprefix

theorem nameAhead?_of_token (hn : IsName name.toList) {xs ys : List Char}
    (h : '<' :: xs = token name ++ ys) : Token.nameAhead? xs = some (name.toList, ys) := by
  refine Token.nameAhead?_eq_some_iff.mpr ⟨hn, ?_⟩
  simpa [token_eq] using h

/-- What an offence begins with. -/
theorem Offence.cases_cons (h : Offence before (c :: after) fault) :
    c = ']' ∧ AllClosed before ∨ c = '<' ∧ (Token.nameAhead? after).isSome = true := by
  generalize htext : c :: after = text at h
  cases h with
  | closes h => exact .inl ⟨(List.cons.inj htext).1, h⟩
  | repeats hname =>
    obtain rfl := (List.cons.inj htext).1
    exact .inr ⟨rfl, by rw [nameAhead?_of_token hname htext]; rfl⟩

theorem Offence.unique (h : Offence before after fault) (h' : Offence before after f) :
    f = fault := by
  cases h with
  | closes =>
    generalize htext : ']' :: _ = text at h'
    cases h' with
    | closes => rfl
    | repeats => cases htext
  | repeats hname =>
    generalize htext : token _ ++ _ = text at h'
    cases h' with
    | closes => cases htext
    | repeats hname' => rw [token_append_inj hname hname' htext]

/-- With no offence before it, an offence is the fault of the text. -/
theorem blamed_iff_of_offence (hclean : CleanTo before.length (before ++ after))
    (h : Offence before after fault) : Blamed (before ++ after) f ↔ f = fault := by
  constructor
  · intro hf
    generalize htext : before ++ after = text at hf
    cases hf with
    | @offence b a _ hsplit hoffence hfirst =>
      have hlength : b.length = before.length := by
        rcases Nat.lt_trichotomy b.length before.length with hlt | heq | hgt
        · exact absurd hoffence (hclean b a f (htext.trans hsplit) hlt)
        · exact heq
        · exact absurd h (hfirst before after fault htext.symm hgt)
      obtain ⟨rfl, rfl⟩ := List.append_inj (htext.trans hsplit) hlength.symm
      exact h.unique hoffence
    | unclosed hnone => exact absurd h (hnone before after fault htext.symm)
  · rintro rfl
    exact .offence rfl h hclean

theorem length_le_of_last {xs ys : List Char} (h : before ++ '[' :: after = xs ++ '[' :: ys)
    (hclosed : AllClosed after) (hopen : StaysOpen ys) : xs.length ≤ before.length := by
  rcases List.append_eq_append_iff.mp h with ⟨zs, rfl, hzs⟩ | ⟨zs, rfl, -⟩
  · cases zs with
    | nil => simp
    | cons z zs =>
      obtain ⟨-, rfl⟩ := List.cons.inj hzs
      exact absurd hopen (hclosed zs ys rfl)
  · simp

/-- Without any offence, the fault is the bracket that was opened last. -/
theorem blamed_iff_of_openings (hclean : Clean text)
    (h : Openings text openings) :
    Blamed text f ↔ ∃ position, openings.head? = some position ∧ f = .unclosedGroup position := by
  constructor
  · intro hf
    cases hf with
    | offence hsplit hoffence => exact absurd hoffence (hclean _ _ f hsplit)
    | @unclosed before after _ hsplit hopen hclosed =>
      cases openings with
      | nil => exact absurd hopen (h.allClosed_iff.mpr rfl before after hsplit)
      | cons position openings =>
        obtain ⟨xs, ys, rfl, hopen', hclosed', rfl⟩ := h.exists_of_cons
        refine ⟨_, rfl, ?_⟩
        have hlength := Nat.le_antisymm (length_le_of_last hsplit hclosed' hopen)
          (length_le_of_last hsplit.symm hclosed hopen')
        rw [(List.append_inj hsplit hlength.symm).1]
  · rintro ⟨position, hposition, rfl⟩
    cases h with
    | nil => cases hposition
    | cons h hinner =>
      cases hposition
      exact .unclosed hclean rfl hinner.staysOpen hinner.allClosed

/-- Something is wrong with a text if it has an offence or an opening bracket that is not closed. -/
theorem exists_blamed_iff : (∃ fault, Blamed text fault) ↔
    ¬(Clean text ∧ AllClosed text) := by
  constructor
  · rintro ⟨fault, hfault⟩ ⟨hclean, hall⟩
    cases hfault with
    | offence hsplit hoffence => exact hclean _ _ _ hsplit hoffence
    | unclosed _ hsplit hopen => exact hall _ _ hsplit hopen
  · intro h
    by_cases hclean : Clean text
    · obtain ⟨before, after, hsplit, hopen, hclosed⟩ :=
        exists_last_of_not_allClosed fun hall => h ⟨hclean, hall⟩
      exact ⟨_, .unclosed hclean hsplit hopen hclosed⟩
    · have hexists : ∃ n b a f, b.length = n ∧ text = b ++ a ∧ Offence b a f := by
        simp only [Clean, not_forall, not_not] at hclean
        obtain ⟨b, a, f, hsplit, hoffence⟩ := hclean
        exact ⟨_, b, a, f, rfl, hsplit, hoffence⟩
      classical
      obtain ⟨b, a, f, hlength, hsplit, hoffence⟩ := Nat.find_spec hexists
      refine ⟨f, .offence hsplit hoffence fun b' a' f' hsplit' hlt hoffence' => ?_⟩
      exact Nat.find_min hexists (hlength ▸ hlt) ⟨b', a', f', rfl, hsplit', hoffence'⟩

/-! ## Going through a text -/

/-- A token begins in the text before a place. -/
def BeginsBefore (name : String) (before after : List Char) : Prop :=
  ∃ b a, before ++ after = b ++ (token name ++ a) ∧ b.length < before.length

/-- The text has been gone through up to a place without an offence. -/
structure Reached (before after : List Char) (openings : List Nat) (seen : List String) : Prop where
  clean : CleanTo before.length (before ++ after)
  openings : Openings before openings
  mem_seen_iff : ∀ name : String, IsName name.toList →
    (name ∈ seen ↔ BeginsBefore name before after)

/-- A place in a longer front of the text is in the old front, or in what has been added. -/
theorem place_cases {b a : List Char} (h : before ++ front ++ after = b ++ a)
    (hlt : b.length < (before ++ front).length) : b.length < before.length ∨
      ∃ d e, front = d ++ e ∧ e ≠ [] ∧ b = before ++ d ∧ a = e ++ after := by
  by_cases hbefore : b.length < before.length
  · exact .inl hbefore
  refine .inr ?_
  obtain ⟨e, he, rfl⟩ : ∃ e, before ++ front = b ++ e ∧ a = e ++ after := by
    rcases List.append_eq_append_iff.mp h with ⟨e, rfl, -⟩ | h
    · simp at hlt
    · exact h
  obtain ⟨d, rfl, rfl⟩ : ∃ d, b = before ++ d ∧ front = d ++ e := by
    rcases List.append_eq_append_iff.mp he with h | ⟨d, rfl, rfl⟩
    · exact h
    · have hnil : d = [] := by simpa using hbefore
      exact ⟨[], by simp [hnil], by simp [hnil]⟩
  refine ⟨d, e, rfl, ?_, rfl, rfl⟩
  rintro rfl
  simp at hlt

/-- Within a token, only its own beginning can be the place of a token or of an offence. -/
theorem token_cases (hn : IsName name.toList) {d e : List Char} (h : token name = d ++ e)
    (he : e ≠ []) : d = [] ∨ ∃ c rest, e = c :: rest ∧ c ≠ '<' ∧ c ≠ ']' := by
  cases d with
  | nil => exact .inl rfl
  | cons d ds =>
    obtain ⟨c, rest, rfl⟩ := List.exists_cons_of_ne_nil he
    have htail : name.toList ++ ['>'] = ds ++ c :: rest := (List.cons.inj h).2
    have hc : c ∈ name.toList ++ ['>'] := by simp [htail]
    refine .inr ⟨c, rest, rfl, ?_⟩
    rcases List.mem_append.mp hc with hc | hc
    · constructor
      · rintro rfl
        exact hn.not_mem (by simp) hc
      · rintro rfl
        exact hn.not_mem (by simp) hc
    · rw [List.mem_singleton.mp hc]
      decide

/-- Where a token begins, another one has begun before if and only if it has also ended. -/
theorem isInfix_token_iff (hn : IsName name.toList) :
    token name <:+: before ↔ BeginsBefore name before ('<' :: after) := by
  constructor
  · rintro ⟨b, a, rfl⟩
    exact ⟨b, a ++ '<' :: after, by simp, by simp [token_eq]⟩
  · rintro ⟨b, a, hsplit, hlt⟩
    obtain ⟨d, rfl, hd⟩ : ∃ d, before = b ++ d ∧ token name ++ a = d ++ '<' :: after := by
      rcases List.append_eq_append_iff.mp hsplit with ⟨d, rfl, -⟩ | h
      · simp at hlt
      · exact h
    rcases List.append_eq_append_iff.mp hd with ⟨e, rfl, -⟩ | ⟨e, he, hafter⟩
    · exact ⟨b, e, by simp⟩
    · cases e with
      | nil =>
        rw [List.append_nil] at he
        exact ⟨b, [], by simp [he]⟩
      | cons c e =>
        obtain ⟨rfl, -⟩ := List.cons.inj hafter
        rcases token_cases hn he (List.cons_ne_nil _ _) with rfl | ⟨c, rest, hc, hne, -⟩
        · simp at hlt
        · exact absurd (List.cons.inj hc).1.symm hne

namespace Reached

variable {cs : List Char}

theorem start (text : List Char) : Reached [] text [] [] where
  clean := fun _ _ _ _ hlt => absurd hlt (Nat.not_lt_zero _)
  openings := .nil (.of_not_mem (by simp) (by simp))
  mem_seen_iff := fun _ _ => iff_of_false (by simp) fun ⟨_, _, _, hlt⟩ => Nat.not_lt_zero _ hlt

theorem clean_end (h : Reached before [] openings seen) : Clean before := by
  rintro b a f rfl hoffence
  refine h.clean b a f (List.append_nil _) ?_ hoffence
  cases a with
  | nil => nomatch hoffence
  | cons => simp

theorem append {openings' : List Nat} {seen' : List String}
    (h : Reached before (front ++ cs) openings seen)
    (hclean : ∀ d e f, front = d ++ e → e ≠ [] → ¬Offence (before ++ d) (e ++ cs) f)
    (hopenings : Openings (before ++ front) openings')
    (hseen : ∀ name : String, IsName name.toList → (name ∈ seen' ↔ name ∈ seen ∨
      ∃ d e a, front = d ++ e ∧ e ≠ [] ∧ e ++ cs = token name ++ a)) :
    Reached (before ++ front) cs openings' seen' where
  clean := by
    intro b a f hsplit hlt
    rcases place_cases hsplit hlt with hlt | ⟨d, e, hfront, he, rfl, rfl⟩
    · exact h.clean b a f (by rw [← List.append_assoc, hsplit]) hlt
    · exact hclean d e f hfront he
  openings := hopenings
  mem_seen_iff := by
    intro name hname
    rw [hseen name hname, h.mem_seen_iff name hname]
    constructor
    · rintro (⟨b, a, hsplit, hlt⟩ | ⟨d, e, a, rfl, he, hsplit⟩)
      · refine ⟨b, a, by rw [List.append_assoc, hsplit], ?_⟩
        rw [List.length_append]
        omega
      · refine ⟨before ++ d, a, by simp [hsplit], ?_⟩
        have := List.length_pos_of_ne_nil he
        simp
        omega
    · rintro ⟨b, a, hsplit, hlt⟩
      rcases place_cases hsplit hlt with hlt | ⟨d, e, hfront, he, rfl, he'⟩
      · exact .inl ⟨b, a, by rw [← List.append_assoc, hsplit], hlt⟩
      · exact .inr ⟨d, e, a, hfront, he, he'.symm⟩

/-- One more character, where no offence and no token begins. -/
theorem char {openings' : List Nat} (h : Reached before (c :: cs) openings seen)
    (hclose : c = ']' → ¬AllClosed before)
    (htoken : c = '<' → Token.nameAhead? cs = none)
    (hopenings : Openings (before ++ [c]) openings') :
    Reached (before ++ [c]) cs openings' seen := by
  have hsingle : ∀ d e : List Char, [c] = d ++ e → e ≠ [] → d = [] ∧ e = [c] := by
    intro d e hsplit he
    rcases List.append_eq_singleton_iff.mp hsplit.symm with h | ⟨-, rfl⟩
    · exact h
    · exact absurd rfl he
  have hreached : Reached before ([c] ++ cs) openings seen := h
  refine hreached.append (fun d e f hsplit he hoffence => ?_) hopenings fun name hname => ?_
  · obtain ⟨rfl, rfl⟩ := hsingle d e hsplit he
    rw [List.append_nil] at hoffence
    rcases hoffence.cases_cons with ⟨hc, hall⟩ | ⟨hc, hahead⟩
    · exact hclose hc hall
    · simp [htoken hc] at hahead
  · rw [or_iff_left]
    rintro ⟨d, e, a, hsplit, he, htext⟩
    obtain ⟨rfl, rfl⟩ := hsingle d e hsplit he
    obtain rfl : c = '<' := (List.cons.inj htext).1
    exact absurd ((htoken rfl).symm.trans (nameAhead?_of_token hname htext)) (by simp)

/-- A token whose name is new. -/
theorem token (h : Reached before (token name ++ cs) openings seen) (hname : IsName name.toList)
    (hnew : name ∉ seen) : Reached (before ++ Template.token name) cs openings (name :: seen) := by
  refine h.append (fun d e f hsplit he hoffence => ?_)
    (h.openings.append (balanced_token hname)) fun other hother => ?_
  · rcases token_cases hname hsplit he with rfl | ⟨c, rest, rfl, hlt, hclose⟩
    · rw [List.nil_append] at hsplit
      rw [List.append_nil, ← hsplit] at hoffence
      generalize htext : Template.token name ++ cs = text at hoffence
      cases hoffence with
      | closes => cases htext
      | @repeats other after hother hinfix =>
        obtain rfl := token_append_inj hname hother htext
        have hbegins : BeginsBefore name before ('<' :: (name.toList ++ '>' :: cs)) :=
          (isInfix_token_iff hname).mp hinfix
        refine hnew ((h.mem_seen_iff name hname).mpr ?_)
        simpa [BeginsBefore, token_eq] using hbegins
    · rcases hoffence.cases_cons with ⟨hc, -⟩ | ⟨hc, -⟩
      · exact hclose hc
      · exact hlt hc
  · rw [List.mem_cons, or_comm]
    refine or_congr_right ⟨?_, ?_⟩
    · rintro rfl
      exact ⟨[], Template.token other, cs, rfl, List.cons_ne_nil _ _, rfl⟩
    · rintro ⟨d, e, a, hsplit, he, htext⟩
      rcases token_cases hname hsplit he with rfl | ⟨c, rest, rfl, hlt, -⟩
      · rw [List.nil_append] at hsplit
        rw [← hsplit] at htext
        exact (token_append_inj hname hother htext).symm
      · exact absurd (List.cons.inj htext).1 hlt

end Reached

theorem check_consChar (c : Char) (ts : List Token) (position : Nat) :
    check (Token.consChar c ts) position openings seen =
      check ts (position + c.utf8Size) openings seen := by
  have hsingle : (Token.literal [c]).width = c.utf8Size := by
    simp [Token.width, Token.print, Utf8.encode, Utf8.length_encodeChar]
  unfold Token.consChar
  split
  · rename_i cs ts
    have hcons : (Token.literal (c :: cs)).width = c.utf8Size + (Token.literal cs).width := by
      simp [Token.width, Token.print, Utf8.encode, Utf8.length_encodeChar]
    rw [check, check, hcons, Nat.add_assoc]
  · rw [check, hsingle]

theorem utf8ByteSize_append (xs ys : List Char) : (String.ofList (xs ++ ys)).utf8ByteSize =
    (String.ofList xs).utf8ByteSize + (String.ofList ys).utf8ByteSize := by
  rw [String.ofList_append, String.utf8ByteSize_append]

theorem width_token (name : List Char) :
    (Token.placeholder name).width = (String.ofList (token (.ofList name))).utf8ByteSize := by
  rw [Token.width, Utf8.length_encode, token, String.toList_ofList]

/-- From a place that has been reached, the check of the tokens finds the fault of the text. -/
theorem check_scan_eq_error_iff {cs : List Char} (h : Reached before cs openings seen) :
    check (Token.scan cs) (String.ofList before).utf8ByteSize openings seen = .error fault ↔
      Blamed (before ++ cs) fault := by
  fun_induction Token.scan cs generalizing before openings seen with
  | case1 =>
    rw [List.append_nil, blamed_iff_of_openings h.clean_end h.openings]
    cases openings with
    | nil => simp [check]
    | cons last openings => simp [check, eq_comm]
  | case2 cs ih =>
    have hnext := h.char (by simp) (by simp) h.openings.opens
    rw [List.append_cons, ← ih hnext, utf8ByteSize_append, check]
    rfl
  | case3 cs ih =>
    cases openings with
    | nil =>
      have hoffence : Offence before (']' :: cs) _ := .closes (h.openings.allClosed_iff.mpr rfl)
      rw [blamed_iff_of_offence h.clean hoffence, check]
      simp [eq_comm]
    | cons last openings =>
      have hopen : ¬AllClosed before := fun hall =>
        List.cons_ne_nil _ _ (h.openings.allClosed_iff.mp hall)
      have hnext := h.char (fun _ => hopen) (by simp) h.openings.closes
      rw [List.append_cons, ← ih hnext, utf8ByteSize_append, check]
      rfl
  | case4 cs name rest hahead ih =>
    obtain ⟨hname, rfl⟩ := Token.nameAhead?_eq_some_iff.mp hahead
    rw [← String.toList_ofList (l := name)] at hname
    have htext : '<' :: (name ++ '>' :: rest) = token (.ofList name) ++ rest := by
      simp [token_eq]
    rw [htext] at h ⊢
    rw [check]
    by_cases hseen : String.ofList name ∈ seen
    · have hbegins := (h.mem_seen_iff _ hname).mp hseen
      have hoffence : Offence before (token (.ofList name) ++ rest) _ :=
        .repeats hname ((isInfix_token_iff hname).mpr hbegins)
      rw [blamed_iff_of_offence h.clean hoffence, if_pos (by simpa using hseen)]
      simp [eq_comm]
    · rw [if_neg (by simpa using hseen), width_token, ← utf8ByteSize_append,
        ih (h.token hname hseen), List.append_assoc]
  | case5 cs hahead ih =>
    have hplain : Balanced ['<'] := .of_not_mem (by simp) (by simp)
    have hnext := h.char (by simp) (fun _ => hahead) (h.openings.append hplain)
    rw [List.append_cons, ← ih hnext, utf8ByteSize_append, check_consChar]
    rfl
  | case6 cs c hopen hclose hlt ih =>
    have hplain : Balanced [c] :=
      .of_not_mem (by simpa using Ne.symm hopen) (by simpa using Ne.symm hclose)
    have hnext := h.char (absurd · hclose) (absurd · hlt) (h.openings.append hplain)
    rw [List.append_cons, ← ih hnext, utf8ByteSize_append, check_consChar]
    simp

variable {text : String}

theorem parse_eq_error_iff : parse text = .error fault ↔ Blamed text.toList fault := by
  have hcheck : check (Token.scan text.toList) 0 [] [] = .error fault ↔
      Blamed text.toList fault := check_scan_eq_error_iff (.start text.toList)
  rw [← hcheck, parse]
  cases check (Token.scan text.toList) 0 [] [] <;> simp [bind, Except.bind, pure, Except.pure]

theorem exists_parse_iff :
    (∃ t, parse text = .ok t) ↔ Clean text.toList ∧ AllClosed text.toList := by
  rw [← not_iff_not, ← exists_blamed_iff]
  simp only [← parse_eq_error_iff]
  cases parse text <;> simp

/-- A character stands at the byte that the text before it ends at. -/
theorem get?_of_append (h : text.toList = before ++ c :: after) :
    String.Pos.Raw.get? text ⟨(String.ofList before).utf8ByteSize⟩ = some c := by
  rw [← String.ofList_toList (s := text), h, String.utf8ByteSize_ofList, String.get?_of_valid]
  rfl

/-- A text is read unless something is wrong with it, and then the first offence is reported, or
else the last bracket that is not closed. The bracket of a report stands at the byte it tells. -/
theorem parse_blames (text : String) :
    (∀ fault, parse text = .error fault ↔ Blamed text.toList fault) ∧
    ((∃ t, parse text = .ok t) ↔ Clean text.toList ∧ AllClosed text.toList) ∧
    (∀ position, parse text = .error (.unexpectedClose position) →
      String.Pos.Raw.get? text ⟨position⟩ = some ']') ∧
    ∀ position, parse text = .error (.unclosedGroup position) →
      String.Pos.Raw.get? text ⟨position⟩ = some '[' := by
  refine ⟨fun fault => parse_eq_error_iff, exists_parse_iff, fun position h => ?_,
    fun position h => ?_⟩
  · cases parse_eq_error_iff.mp h with
    | offence hsplit hoffence =>
      cases hoffence with
      | closes => exact get?_of_append hsplit
  · cases parse_eq_error_iff.mp h with
    | offence hsplit hoffence => nomatch hoffence
    | unclosed _ hsplit => exact get?_of_append hsplit

example : parse "/é[<x>[/]" = .error (.unclosedGroup 3) := by decide +kernel

end Template

end PathRoute
