import PathRoute.Proofs.Pattern.Expression
import PathRoute.Proofs.Regex.Search
import PathRoute.Proofs.Template.Reading

/-!
# Captures are readings

The matches of a template's expression and the readings of the template are the same thing: the
groups of a match take what the placeholders and the groups of a reading take. So what a compiled
template captures in a path is a reading of the path, and there are captures as soon as there is a
reading.
-/

namespace PathRoute

namespace Regex

variable {text : List Char} {i j k : Nat} {m n : Marks}

/-! ## Stretches of a text -/

theorem textAt_eq_take_drop : textAt text (i, j) = (text.drop i).take (j - i) := List.drop_take

@[simp] theorem textAt_self : textAt text (i, i) = [] := by simp [textAt_eq_take_drop]

@[simp] theorem textAt_length : textAt text (0, text.length) = text := by
  simp [textAt_eq_take_drop]

theorem textAt_append (hij : i ≤ j) (hjk : j ≤ k) :
    textAt text (i, j) ++ textAt text (j, k) = textAt text (i, k) := by
  obtain ⟨a, rfl⟩ := Nat.exists_eq_add_of_le hij
  obtain ⟨b, rfl⟩ := Nat.exists_eq_add_of_le hjk
  simp only [textAt_eq_take_drop]
  rw [← List.drop_drop, Nat.add_sub_cancel_left, Nat.add_sub_cancel_left, Nat.add_assoc,
    Nat.add_sub_cancel_left, List.take_add]

/-- Characters that are matched one by one are the text between. -/
theorem textAt_of_matchesAll_single {cs : List Char}
    (h : MatchesAll text (cs.map single) i j m) : textAt text (i, j) = cs ∧ m = [] := by
  induction cs generalizing i m with
  | nil =>
    obtain ⟨rfl, rfl⟩ := h
    exact ⟨textAt_self, rfl⟩
  | cons c cs ih =>
    obtain ⟨_, _, n', hc, hcs, rfl⟩ := h
    obtain ⟨rfl, rfl, d, hd, hm⟩ := Matches.char_iff.mp hc
    obtain rfl := (CharClass.contains_single c d).mp hm
    obtain ⟨htext, rfl⟩ := ih hcs
    obtain ⟨hi, rfl⟩ := List.getElem?_eq_some_iff.mp hd
    have hhead : textAt text (i, i + 1) = [text[i]] := by
      rw [textAt_eq_take_drop, Nat.add_sub_cancel_left, List.drop_eq_getElem_cons hi]
      rfl
    rw [← textAt_append (Nat.le_add_right i 1) hcs.le, hhead, htext]
    exact ⟨rfl, rfl⟩

theorem matchesAll_single (pre cs post : List Char) :
    MatchesAll (pre ++ cs ++ post) (cs.map single) pre.length (pre.length + cs.length) [] := by
  induction cs generalizing pre with
  | nil => exact ⟨rfl, rfl⟩
  | cons c cs ih =>
    refine ⟨pre.length + 1, [], [], .char (c := c) (by simp)
      ((CharClass.contains_single ..).mpr rfl), ?_, rfl⟩
    have := ih (pre ++ [c])
    simpa [Nat.add_assoc, Nat.add_comm 1] using this

/-- A loop over the characters of words takes a word. -/
theorem plus_word_iff (hj : j ≤ text.length) :
    Matches text (.plus true (.char .word)) i j m ↔
      i ≤ j ∧ m = [] ∧ IsWord (textAt text (i, j)) := by
  rw [Matches.plus_char_iff]
  constructor
  · rintro ⟨hlt, rfl, hall⟩
    refine ⟨Nat.le_of_lt hlt, rfl, ?_, fun c hc => ?_⟩
    · rw [textAt_eq_take_drop]
      exact List.ne_nil_of_length_pos (by simp; omega)
    · obtain ⟨k, hk⟩ := List.mem_iff_getElem?.mp hc
      rw [textAt_eq_take_drop, List.getElem?_take, List.getElem?_drop] at hk
      split at hk
      · obtain ⟨d, hd, hw⟩ := hall (i + k) (by omega) (by omega)
        obtain rfl := Option.some.inj (hk.symm.trans hd)
        exact hw
      · cases hk
  · rintro ⟨hle, rfl, hne, hall⟩
    have hlt : i < j := by
      refine Nat.lt_of_le_of_ne hle ?_
      rintro rfl
      exact hne textAt_self
    refine ⟨hlt, rfl, fun k hk hkj => ?_⟩
    have hc : (textAt text (i, j))[k - i]? = text[k]? := by
      rw [textAt_eq_take_drop, List.getElem?_take, List.getElem?_drop, if_pos (by omega)]
      congr 1
      omega
    have hkt : k < text.length := by omega
    refine ⟨text[k], List.getElem?_eq_getElem hkt, hall _ ?_⟩
    exact List.mem_iff_getElem?.mpr ⟨k - i, by rw [hc, List.getElem?_eq_getElem hkt]⟩

/-! ## Places of groups -/

/-- The place that was noted for a group. -/
def Marks.place? (m : Marks) (g : Nat) : Option (Nat × Nat) :=
  match m.lookup (2 * g), m.lookup (2 * g + 1) with
  | some first, some last => some (first, last)
  | _, _ => none

/-- The notes are about groups after `lo` and up to `hi`. -/
def Marks.Within (m : Marks) (lo hi : Nat) : Prop :=
  ∀ p ∈ m, 2 * lo + 1 < p.1 ∧ p.1 ≤ 2 * hi + 1

namespace Marks

@[simp] theorem Within.nil (lo hi : Nat) : Within [] lo hi := by
  intro p hp
  cases hp

theorem Within.mono {lo lo' hi hi' : Nat} (h : m.Within lo hi) (hlo : lo' ≤ lo) (hhi : hi ≤ hi') :
    m.Within lo' hi' := by
  intro p hp
  have := h p hp
  omega

theorem Within.append {lo hi : Nat} (hm : m.Within lo hi) (hn : n.Within lo hi) :
    Within (m ++ n) lo hi := by
  intro p hp
  rcases List.mem_append.mp hp with hp | hp
  · exact hm p hp
  · exact hn p hp

/-- Notes about groups one after the other are about all of them. -/
theorem Within.append_after {lo mid hi : Nat} (hm : m.Within lo mid) (hn : n.Within mid hi)
    (hlo : lo ≤ mid) (hhi : mid ≤ hi) : Within (n ++ m) lo hi :=
  (hn.mono hlo (Nat.le_refl _)).append (hm.mono (Nat.le_refl _) hhi)

theorem Within.lookup_eq_none {lo hi slot : Nat} (h : m.Within lo hi)
    (hs : slot ≤ 2 * lo + 1 ∨ 2 * hi + 1 < slot) : m.lookup slot = none := by
  rw [List.lookup_eq_none_iff]
  intro p hp
  have := h p hp
  rw [bne_iff_ne]
  omega

/-- Notes about other groups do not matter. -/
theorem place?_append_of_within {lo hi g : Nat} (h : m.Within lo hi) (hg : g ≤ lo ∨ hi < g) :
    place? (m ++ n) g = n.place? g := by
  simp only [place?, List.lookup_append]
  rw [h.lookup_eq_none (by omega), h.lookup_eq_none (by omega)]
  simp

/-- Notes about other groups before do not matter either. -/
theorem place?_append_of_within_right {lo hi g : Nat} (h : n.Within lo hi) (hg : g ≤ lo ∨ hi < g) :
    place? (m ++ n) g = m.place? g := by
  simp only [place?, List.lookup_append]
  rw [h.lookup_eq_none (by omega), h.lookup_eq_none (by omega)]
  simp

/-- What the groups after `lo` have captured, `k` of them. -/
def texts (m : Marks) (text : List Char) (lo k : Nat) : List (Option (List Char)) :=
  (List.range' (lo + 1) k).map fun g => (m.place? g).map (textAt text)

theorem exists_place_of_getElem?_texts {lo k g : Nat} {cs : List Char}
    (h : (m.texts text lo k)[g]? = some (some cs)) :
    ∃ place, m.place? (lo + 1 + g) = some place ∧ textAt text place = cs := by
  rw [texts, List.getElem?_map, Option.map_eq_some_iff] at h
  obtain ⟨x, hx, hplace⟩ := h
  obtain ⟨hlt, rfl⟩ := List.getElem?_eq_some_iff.mp hx
  rw [List.getElem_range', Nat.one_mul] at hplace
  exact Option.map_eq_some_iff.mp hplace

theorem texts_succ (lo k : Nat) :
    m.texts text lo (k + 1) = (m.place? (lo + 1)).map (textAt text) :: m.texts text (lo + 1) k := by
  rw [texts, List.range'_succ]
  rfl

theorem texts_add (lo k l : Nat) :
    m.texts text lo (k + l) = m.texts text lo k ++ m.texts text (lo + k) l := by
  rw [texts, ← List.range'_append, List.map_append, Nat.one_mul, Nat.add_right_comm]
  rfl

theorem texts_congr {lo k : Nat} (h : ∀ g, lo < g → g ≤ lo + k → m.place? g = n.place? g) :
    m.texts text lo k = n.texts text lo k := by
  refine List.map_congr_left fun g hg => ?_
  rw [List.mem_range'_1] at hg
  rw [h g (by omega) (by omega)]

@[simp] theorem texts_nil (lo k : Nat) : texts [] text lo k = List.replicate k none := by
  exact List.eq_replicate_iff.mpr ⟨by simp [texts], by simp [texts, place?]⟩

/-- Notes about groups one after the other tell apart what these captured. -/
theorem texts_append {lo k hi : Nat} (hm : m.Within lo (lo + k)) (hn : n.Within (lo + k) hi)
    (text : List Char) (l : Nat) :
    texts (n ++ m) text lo (k + l) = m.texts text lo k ++ n.texts text (lo + k) l := by
  rw [texts_add]
  congr 1
  · exact texts_congr fun g _ hg => place?_append_of_within hn (.inl hg)
  · exact texts_congr fun g hg _ => place?_append_of_within_right hm (.inr hg)

/-- The notes of a group with those of the groups in it. -/
def ofGroup (g i j : Nat) (m : Marks) : Marks := (2 * g + 1, j) :: (m ++ [(2 * g, i)])

theorem Within.ofGroup {lo k : Nat} (h : m.Within (lo + 1) (lo + 1 + k)) :
    Within (ofGroup (lo + 1) i j m) lo (lo + (k + 1)) := by
  intro p hp
  simp only [Marks.ofGroup, List.mem_cons, List.mem_append, List.not_mem_nil, or_false] at hp
  rcases hp with rfl | hp | rfl
  · constructor <;> dsimp only <;> omega
  · have := h p hp
    omega
  · constructor <;> dsimp only <;> omega

/-- The notes of a group say nothing about the groups after it. -/
theorem texts_ofGroup_of_le {g lo k : Nat} (hg : g ≤ lo) :
    texts (ofGroup g i j m) text lo k = m.texts text lo k := by
  refine texts_congr fun x hx _ => ?_
  have h₁ : (2 * x == 2 * g + 1) = false := by grind
  have h₂ : (2 * x == 2 * g) = false := by grind
  have h₃ : (2 * x + 1 == 2 * g + 1) = false := by grind
  have h₄ : (2 * x + 1 == 2 * g) = false := by grind
  simp only [place?, ofGroup, List.lookup_append, List.lookup_cons, List.lookup_nil, h₁, h₂, h₃,
    h₄, Option.or_none]

/-- What a group has captured stands before what the groups in it have. -/
theorem texts_ofGroup {lo k : Nat} (h : m.Within (lo + 1) (lo + 1 + k)) :
    texts (ofGroup (lo + 1) i j m) text lo (k + 1) =
      some (textAt text (i, j)) :: m.texts text (lo + 1) k := by
  have hfirst : m.lookup (2 * (lo + 1)) = none := h.lookup_eq_none (by omega)
  have hne : (2 * (lo + 1) == 2 * (lo + 1) + 1) = false := by simp
  rw [texts_succ, texts_ofGroup_of_le (Nat.le_refl _)]
  simp [place?, ofGroup, List.lookup_append, List.lookup_cons, hfirst, hne]

/-- The captures without that of the whole match. -/
theorem drop_captures (text : List Char) (m : Marks) (i j k : Nat) :
    ((captures (ofGroup 0 i j m) k).drop 1).map (·.map (textAt text)) = m.texts text 0 k := by
  rw [← texts_ofGroup_of_le (Nat.le_refl 0), captures, List.range_eq_range', List.range'_succ,
    List.map_cons, List.drop_one, List.tail_cons, List.map_map]
  rfl

end Marks

end Regex

namespace Template

open Regex

variable {text : List Char} {i j : Nat} {m : Marks} {ps : Placeholders}

/-- A placeholder's value is captured as a word. With a default it may be left out. -/
theorem word_or_blank_of_matches {g : Nat} {name : String} (hj : j ≤ text.length)
    (h : Matches text (if (ps.rules name).default.isSome then
      opt true (.group g (.plus true (.char .word))) else .group g (.plus true (.char .word)))
      i j m) :
    (IsWord (textAt text (i, j)) ∧ m = Marks.ofGroup g i j []) ∨
      ((ps.rules name).default.isSome = true ∧ i = j ∧ m = []) := by
  have hword : Matches text (.group g (.plus true (.char .word))) i j m →
      IsWord (textAt text (i, j)) ∧ m = Marks.ofGroup g i j [] := by
    intro hg
    obtain ⟨_, hplus, rfl⟩ := Matches.group_iff.mp hg
    obtain ⟨-, rfl, hw⟩ := (plus_word_iff hj).mp hplus
    exact ⟨hw, rfl⟩
  by_cases hd : (ps.rules name).default.isSome = true
  · rw [if_pos hd, Matches.opt_iff] at h
    exact h.imp hword fun h => ⟨hd, h⟩
  · rw [if_neg hd] at h
    exact .inl (hword h)

/-- A match of a template's expressions is a reading of the text between, and the groups capture
what the reading takes. -/
theorem reads_of_matchesAll (t : Template) {n : Nat} (h : MatchesAll text (t.regexes ps n) i j m)
    (hi : i ≤ text.length) :
    m.Within n (n + t.captureOrder.length) ∧
      Reads ps t (textAt text (i, j)) (m.texts text n t.captureOrder.length) := by
  induction t generalizing n i j m with
  | nil =>
    obtain ⟨rfl, rfl⟩ := h
    rw [textAt_self]
    exact ⟨by simp, .nil⟩
  | literal lit rest ih =>
    obtain ⟨k, p, q, hlit, hrest, rfl⟩ := MatchesAll.append_iff.mp h
    obtain ⟨hq, hreads⟩ := ih hrest (hlit.le_length hi)
    obtain ⟨htext, rfl⟩ := textAt_of_matchesAll_single hlit
    rw [List.append_nil, ← textAt_append hlit.le hrest.le, htext]
    exact ⟨hq, .literal hreads⟩
  | placeholder name rest ih =>
    obtain ⟨k, p, q, hvalue, hrest, rfl⟩ := h
    have hk := hvalue.le_length hi
    obtain ⟨hq, hreads⟩ := ih hrest hk
    rw [← textAt_append hvalue.le hrest.le, captureOrder, List.length_cons, Nat.add_comm _ 1]
    rw [Nat.add_assoc] at hq
    rcases word_or_blank_of_matches hk hvalue with ⟨hw, rfl⟩ | ⟨hd, rfl, rfl⟩
    · have hnil := Marks.Within.nil (n + 1) (n + 1 + 0)
      have hp : Marks.Within (Marks.ofGroup (n + 1) i k []) n (n + 1) := hnil.ofGroup
      rw [Marks.texts_append hp hq, Marks.texts_ofGroup hnil]
      exact ⟨hp.append_after hq (by omega) (by omega), .word hw hreads⟩
    · have hp := Marks.Within.nil n (n + 1)
      rw [Marks.texts_append hp hq, textAt_self]
      exact ⟨hp.append_after hq (by omega) (by omega), .blank hd hreads⟩
  | optional inner rest ihi ihr =>
    obtain ⟨k, p, q, hgroup, hrest, rfl⟩ := h
    have hk := hgroup.le_length hi
    rw [Nat.add_right_comm, Nat.add_assoc] at hrest
    obtain ⟨hq, hreads⟩ := ihr hrest hk
    rw [← textAt_append hgroup.le hrest.le, captureOrder, List.length_cons, List.length_append,
      Nat.add_right_comm, ← Nat.add_assoc n]
    rcases Matches.opt_iff.mp hgroup with hgroup | ⟨rfl, rfl⟩
    · obtain ⟨m, hinner, rfl⟩ := Matches.group_iff.mp hgroup
      obtain ⟨hm, hinner⟩ := ihi (MatchesAll.seqs_iff.mp hinner) hi
      have hp := hm.ofGroup (i := i) (j := k)
      rw [← Marks.ofGroup, Marks.texts_append hp hq, Marks.texts_ofGroup hm]
      exact ⟨hp.append_after hq (by omega) (by omega), .group hinner hreads⟩
    · have hp := Marks.Within.nil n (n + (inner.captureOrder.length + 1))
      rw [Marks.texts_append hp hq, Marks.texts_nil, List.replicate_succ, textAt_self]
      exact ⟨hp.append_after hq (by omega) (by omega), .noGroup hreads⟩

/-- Every reading of a text comes from a match of it, wherever the text stands. -/
theorem Reads.matchesAll {t : Template} {cs : List Char} {vs : List (Option (List Char))}
    (h : Reads ps t cs vs) (pre post : List Char) (n : Nat) :
    ∃ m, MatchesAll (pre ++ cs ++ post) (t.regexes ps n) pre.length (pre.length + cs.length) m := by
  induction h generalizing pre post n with
  | nil => exact ⟨[], rfl, rfl⟩
  | @literal lit rest cs vs _ ih =>
    obtain ⟨m, hm⟩ := ih (pre ++ lit.toList) post n
    have hlit := matchesAll_single pre lit.toList (cs ++ post)
    simp only [List.append_assoc, List.length_append, Nat.add_assoc] at hlit hm ⊢
    exact ⟨_, hlit.append hm⟩
  | @word name rest w cs vs hw _ ih =>
    obtain ⟨m, hm⟩ := ih (pre ++ w) post (n + 1)
    have hplus : Matches (pre ++ (w ++ cs) ++ post) (.plus true (.char .word)) pre.length
        (pre.length + w.length) [] := by
      rw [plus_word_iff (by simp)]
      refine ⟨Nat.le_add_right .., rfl, ?_⟩
      simpa [textAt_eq_take_drop, List.append_assoc] using hw
    have hvalue := hplus.group (x := n + 1)
    simp only [regexes, List.append_assoc, List.length_append, Nat.add_assoc] at hvalue hm ⊢
    by_cases hd : (ps.rules name).default.isSome = true
    · rw [if_pos hd]
      exact ⟨_, .cons (Matches.opt_iff.mpr (.inl hvalue)) hm⟩
    · rw [if_neg hd]
      exact ⟨_, .cons hvalue hm⟩
  | @blank name rest cs vs hd _ ih =>
    obtain ⟨m, hm⟩ := ih pre post (n + 1)
    rw [regexes, if_pos hd]
    exact ⟨_, .cons (Matches.opt_iff.mpr (.inr ⟨rfl, rfl⟩)) hm⟩
  | @group inner rest ci cs vi vs _ _ ihi ihr =>
    obtain ⟨p, hp⟩ := ihi pre (cs ++ post) (n + 1)
    obtain ⟨q, hq⟩ := ihr (pre ++ ci) post (n + 1 + inner.captureOrder.length)
    have hinner := (MatchesAll.seqs_iff.mpr hp).group (x := n + 1)
    simp only [regexes, List.append_assoc, List.length_append, Nat.add_assoc] at hinner hq ⊢
    exact ⟨_, .cons (Matches.opt_iff.mpr (.inl hinner)) hq⟩
  | @noGroup inner rest cs vs _ ih =>
    obtain ⟨m, hm⟩ := ih pre post (n + 1 + inner.captureOrder.length)
    exact ⟨_, .cons (Matches.opt_iff.mpr (.inr ⟨rfl, rfl⟩)) hm⟩

end Template

namespace Pattern

open Regex

variable {path : String} {ps : Placeholders} {p : Pattern}

/-- Behind captures stands a match, and what the groups have captured is noted there. -/
theorem exists_matches_of_captures? {target : String} {texts : List (Option String)}
    (h : p.captures? target = some texts) :
    ∃ i j m, i ≤ target.toList.length ∧ Matches target.toList p.regex i j m ∧
      texts.drop 1 =
        (m.texts target.toList 0 p.regex.groupCount).map (·.map String.ofList) := by
  obtain ⟨places, hplaces, rfl⟩ := Option.map_eq_some_iff.mp h
  obtain ⟨i, j, m, hi, hm, rfl⟩ := captures_eq_some hplaces
  refine ⟨i, j, m, hi, hm, ?_⟩
  rw [← Marks.drop_captures target.toList m i j p.regex.groupCount]
  simp only [Marks.ofGroup, List.map_drop, List.map_map, Function.comp_def, Option.map_map]

/-- What a compiled template captures in a path is a reading of it. -/
theorem reads_of_captures (h : compile path ps = .ok p) (ht : p.template.Unrestricted ps)
    {target : String} {texts : List (Option String)} (hc : p.captures? target = some texts) :
    ∃ vs, p.template.Reads ps target.toList vs ∧ texts.drop 1 = vs.map (·.map String.ofList) := by
  obtain ⟨i, j, m, hi, hm, htexts⟩ := exists_matches_of_captures? hc
  rw [regex_of_compile h ht, MatchesAll.seqs_iff] at hm
  obtain ⟨k, a, b, hstart, hrest, rfl⟩ := hm
  obtain ⟨rfl, rfl, rfl⟩ := (Matches.textStart_iff hi).mp hstart
  obtain ⟨k, a, b, hbody, ⟨_, _, _, hend, ⟨rfl, rfl⟩, rfl⟩, rfl⟩ := MatchesAll.append_iff.mp hrest
  have hk := hbody.le_length hi
  obtain ⟨rfl, rfl, rfl⟩ := (Matches.textEnd_iff hk).mp hend
  obtain ⟨-, hreads⟩ := p.template.reads_of_matchesAll hbody hi
  rw [textAt_length] at hreads
  refine ⟨_, hreads, ?_⟩
  have hcompiled := compiled_of_compile h
  rw [htexts, hcompiled.groupCount_eq, hcompiled.captureOrder_eq, List.append_nil,
    List.nil_append]

/-- A compiled template captures something in a path exactly when the path can be read. -/
theorem captures_isSome_iff (h : compile path ps = .ok p) (ht : p.template.Unrestricted ps)
    (target : String) :
    (p.captures? target).isSome ↔ ∃ vs, p.template.Reads ps target.toList vs := by
  constructor
  · intro hc
    obtain ⟨texts, hc⟩ := Option.isSome_iff_exists.mp hc
    obtain ⟨vs, hvs, -⟩ := reads_of_captures h ht hc
    exact ⟨vs, hvs⟩
  · rintro ⟨vs, hvs⟩
    obtain ⟨m, hm⟩ := hvs.matchesAll [] [] 0
    simp only [List.nil_append, List.append_nil, List.length_nil, Nat.zero_add] at hm
    rw [captures?, Option.isSome_map, Regex.captures_isSome_iff]
    have hend : MatchesAll target.toList [.look .textEnd] target.toList.length
        target.toList.length ([] ++ []) :=
      .cons ((Matches.textEnd_iff (Nat.le_refl _)).mpr ⟨rfl, rfl, rfl⟩) (And.intro rfl rfl)
    have hstart : Matches target.toList (.look .textStart) 0 0 [] :=
      (Matches.textStart_iff (Nat.zero_le _)).mpr ⟨rfl, rfl, rfl⟩
    have hall := MatchesAll.cons hstart (hm.append hend)
    rw [← MatchesAll.seqs_iff, ← regex_of_compile h ht] at hall
    exact ⟨0, target.toList.length, _, Nat.zero_le _, hall⟩

end Pattern

end PathRoute
