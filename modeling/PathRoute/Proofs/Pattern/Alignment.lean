import PathRoute.Proofs.Regex.Groups
import PathRoute.Proofs.Regex.Parentheses

/-!
# Captures belong to their placeholders

Whatever expressions the requirements are, a template is read with one group for each entry of its
capture order, and in the group of a placeholder stands its requirement; what the requirement opens
in there has other numbers. So the count of the groups tells enough: if it is that of the entries,
the entries have the numbers one after the other, and what a group captured is matched by the
requirement of its placeholder: `Pattern.captured_meets_requirement`.
-/

namespace PathRoute

open Regex

namespace Template

variable {ps : Placeholders}

/-- The group of a placeholder, which may be left out if there is a default. -/
def slot (ps : Placeholders) (name : String) (a : Regex) : Regex :=
  if (ps.rules name).default.isSome then opt true a else a

theorem groups_slot (name : String) (a : Regex) : (slot ps name a).groups = a.groups := by
  unfold slot
  split
  · exact groups_opt
  · rfl

theorem contents_slot (name : String) (a : Regex) (g : Nat) :
    (slot ps name a).contents g = a.contents g := by
  unfold slot
  split
  · exact contents_opt
  · rfl

/-- What a template is read as where `n` groups have been opened: the expressions for its items,
the numbers of the groups for its entries, and how many groups have been opened then. -/
inductive Written (ps : Placeholders) : Template → Nat → List Regex → List Nat → Nat → Prop where
  | nil {n : Nat} : Written ps .nil n [] [] n
  | literal {text : String} {rest : Template} {n k : Nat} {rs : List Regex} {gs : List Nat} :
      Written ps rest n rs gs k →
      Written ps (.literal text rest) n (text.toList.map single ++ rs) gs k
  | placeholder {name : String} {rest : Template} {n k l : Nat} {a b : Regex} {rs : List Regex}
      {gs : List Nat} :
      Regex.parse (requirement ps name) = .ok b → a.erase = b.erase →
      (∀ g ∈ a.groups, n + 1 < g ∧ g ≤ k) → n + 1 ≤ k → Written ps rest k rs gs l →
      Written ps (.placeholder name rest) n (slot ps name (.group (n + 1) a) :: rs)
        ((n + 1) :: gs) l
  | optional {inner rest : Template} {n k l : Nat} {rs rs' : List Regex} {gs gs' : List Nat} :
      Written ps inner (n + 1) rs gs k → Written ps rest k rs' gs' l →
      Written ps (.optional inner rest) n (opt true (.group (n + 1) (seqs rs)) :: rs')
        ((n + 1) :: (gs ++ gs')) l

/-- In parentheses, too, every requirement is an expression: none ends in a comment, which would
take the parenthesis that closes it. -/
def Closed (ps : Placeholders) (t : Template) : Prop :=
  ∀ name ∈ t.names, (Regex.parse ("(" ++ requirement ps name ++ ")")).isOk = true

variable {t inner rest : Template} {name : String} {s fin : ParseState} {cs : List Char}

theorem head_body_append (hc : cs.head? ≠ some '?') : (t.body ps ++ cs).head? ≠ some '?' :=
  ReadAs.head_append t.head_body hc

theorem body_placeholder_append : (placeholder name rest).body ps ++ cs =
    '(' :: ((requirement ps name).toList ++ ')' ::
      ((if (ps.rules name).default.isSome then ['?'] else []) ++ (rest.body ps ++ cs))) := by
  simp only [body]
  split <;> simp

theorem body_optional_append : (optional inner rest).body ps ++ cs =
    '(' :: (inner.body ps ++ ')' :: '?' :: (rest.body ps ++ cs)) := by
  simp [body]

/-- A group may be followed by a question mark, which makes it optional. -/
theorem feed_slot {p : Part} {k : Nat} {names : List (List Char)} (hs : s.flags = {})
    (hset : p.setting = false) (hc : cs.head? ≠ some '?') {mark : List Char}
    (hmark : mark = if (ps.rules name).default.isSome then ['?'] else [])
    (h : feed (s.past [p] k names) (mark ++ cs) = .ok fin) :
    ∃ q : Part, q.regex = slot ps name p.regex ∧ feed (s.past [q] k names) cs = .ok fin := by
  unfold slot
  subst hmark
  split at h <;> rename_i hd
  · obtain ⟨q, hq, -, hfin⟩ := feed_optional (s := s.past [p] k names) hs rfl hset hc h
    exact ⟨q, by rw [hq, if_pos hd], hfin⟩
  · exact ⟨p, by rw [if_neg hd], h⟩

/-- The text that is written for a template is read as one part for each of its items. -/
theorem exists_written (t : Template) (ht : t.Closed ps)
    (hreq : ∀ name ∈ t.names, ∃ b, Regex.parse (requirement ps name) = .ok b)
    (hs : s.flags = {}) (hc : cs.head? ≠ some '?') (h : feed s (t.body ps ++ cs) = .ok fin) :
    ∃ qs rs gs k names, Written ps t s.groups rs gs k ∧ qs.reverse.map Part.regex = rs ∧
      feed (s.past qs k names) cs = .ok fin := by
  induction t generalizing s cs with
  | nil => exact ⟨[], [], [], s.groups, s.names, .nil, rfl, h⟩
  | literal text rest ih =>
    rw [body, List.append_assoc, feed_quote hs] at h
    obtain ⟨qs, hqs, heq⟩ := s.foldl_pushClass text.toList
    rw [heq] at h
    obtain ⟨qs', rs, gs, k, names, hw, rfl, hfin⟩ := ih ht hreq (by exact hs) hc h
    refine ⟨qs' ++ qs, _, gs, k, names, .literal hw, ?_, ?_⟩
    · rw [List.reverse_append, List.map_append, hqs]
    · rw [← hfin]
      exact congrArg (feed · cs) (ParseState.past_past s qs qs' _ _ s.names _).symm
  | placeholder name rest ih =>
    obtain ⟨b, hb⟩ := hreq name List.mem_cons_self
    rw [body_placeholder_append] at h
    obtain ⟨p, a, k, names, hp, hset, herase, hgroups, hk, h⟩ :=
      feed_parenthesized hb (ht name List.mem_cons_self) hs h
    obtain ⟨q, hq, h⟩ := feed_slot hs hset (head_body_append hc) rfl h
    obtain ⟨qs, rs, gs, l, names', hw, rfl, hfin⟩ :=
      ih (fun n hn => ht n (List.mem_cons_of_mem _ hn))
        (fun n hn => hreq n (List.mem_cons_of_mem _ hn)) (by exact hs) hc h
    rw [ParseState.past_past] at hfin
    refine ⟨qs ++ [q], _, _, l, names', .placeholder hb herase hgroups hk hw, ?_, hfin⟩
    rw [List.reverse_append, List.map_append, List.reverse_singleton, List.map_singleton, hq, hp,
      List.singleton_append]
  | optional inner rest ihi ihr =>
    rw [body_optional_append, feed_open hs (head_body_append (by simp))] at h
    obtain ⟨qs, rs, gs, k, names, hw, rfl, h⟩ :=
      ihi (fun n hn => ht n (List.mem_append_left _ hn))
        (fun n hn => hreq n (List.mem_append_left _ hn)) (by exact hs) (by simp) h
    rw [feed_close (by exact hs) rfl] at h
    replace h :
        feed (s.past [Part.group (some (s.groups + 1)) (Branches.close { parts := qs ++ [] })]
          k names) ('?' :: (rest.body ps ++ cs)) = .ok fin := h
    obtain ⟨q, hq, -, h⟩ := feed_optional (s := s.past _ k names) hs rfl rfl (head_body_append hc) h
    obtain ⟨qs', rs, gs', l, names', hw', rfl, hfin⟩ :=
      ihr (fun n hn => ht n (List.mem_append_right _ hn))
        (fun n hn => hreq n (List.mem_append_right _ hn)) (by exact hs) hc h
    replace hfin : feed ((s.past [q] k names).past qs' l names') cs = .ok fin := hfin
    rw [ParseState.past_past] at hfin
    refine ⟨qs' ++ [q], _, _, l, names', .optional hw hw', ?_, hfin⟩
    rw [List.reverse_append, List.map_append, List.reverse_singleton, List.map_singleton, hq,
      Part.group, Branches.regex_close rfl, List.append_nil, List.singleton_append]

/-- Numbers that rise from the first on, with no room between them. -/
theorem eq_range'_of_pairwise {n : Nat} {gs : List Nat} (h : gs.Pairwise (· < ·))
    (hg : ∀ g ∈ gs, n < g ∧ g ≤ n + gs.length) : gs = List.range' (n + 1) gs.length := by
  induction gs generalizing n with
  | nil => rfl
  | cons g gs ih =>
    obtain ⟨hlt, hrest⟩ := List.pairwise_cons.mp h
    have hfirst := (hg g List.mem_cons_self).1
    have heq := ih (n := g) hrest fun x hx => by
      have := hlt x hx
      have := hg x (List.mem_cons_of_mem _ hx)
      simp only [List.length_cons] at this
      omega
    obtain rfl : g = n + 1 := by
      by_cases hnil : gs.length = 0
      · have := (hg g List.mem_cons_self).2
        simp only [List.length_cons] at this
        omega
      · have hmem : g + gs.length ∈ gs := by
          rw [heq, List.mem_range'_1]
          simp only [List.length_range']
          omega
        have := (hg _ (List.mem_cons_of_mem _ hmem)).2
        simp only [List.length_cons] at this
        omega
    rw [List.length_cons, List.range'_succ, ← heq]

namespace Written

variable {n k : Nat} {rs : List Regex} {gs : List Nat}

theorem length_eq (h : Written ps t n rs gs k) : gs.length = t.captureOrder.length := by
  induction h with
  | nil => rfl
  | literal _ ih => exact ih
  | placeholder _ _ _ _ _ ih => exact congrArg (· + 1) ih
  | optional _ _ ihi ihr => simp [captureOrder, ihi, ihr]

theorem le (h : Written ps t n rs gs k) : n ≤ k := by
  induction h with
  | nil => exact Nat.le_refl _
  | literal _ ih => exact ih
  | placeholder _ _ _ hk _ ih => omega
  | optional _ _ ihi ihr => omega

theorem group_within {a : Regex} (ha : ∀ g ∈ a.groups, n + 1 < g ∧ g ≤ k) (hk : n + 1 ≤ k) :
    ∀ g ∈ (Regex.group (n + 1) a).groups, n < g ∧ g ≤ k := by
  intro g hg
  rcases List.mem_cons.mp hg with rfl | hg
  · omega
  · have := ha g hg
    omega

/-- The groups that are opened for a template have the numbers after those that were there. -/
theorem groups_within (h : Written ps t n rs gs k) :
    ∀ r ∈ rs, ∀ g ∈ r.groups, n < g ∧ g ≤ k := by
  induction h with
  | nil => simp
  | literal _ ih =>
    intro r hr g hg
    rcases List.mem_append.mp hr with hr | hr
    · obtain ⟨c, -, rfl⟩ := List.mem_map.mp hr
      cases hg
    · exact ih r hr g hg
  | placeholder _ _ ha hk hw ih =>
    have hle := hw.le
    intro r hr g hg
    rcases List.mem_cons.mp hr with rfl | hr
    · rw [groups_slot] at hg
      have := group_within ha hk g hg
      omega
    · have := ih r hr g hg
      omega
  | @optional inner rest n k l rs rs' gs gs' hi hr ihi ihr =>
    have hlei := hi.le
    have hler := hr.le
    intro r hmem g hg
    rcases List.mem_cons.mp hmem with rfl | hmem
    · have hinner : ∀ g ∈ (seqs rs).groups, n + 1 < g ∧ g ≤ k := by
        intro g hg
        obtain ⟨a, ha, hg⟩ := mem_groups_seqs.mp hg
        exact ihi a ha g hg
      rw [groups_opt] at hg
      have := group_within hinner hlei g hg
      omega
    · have := ihr r hmem g hg
      omega

theorem groups_seqs_within (h : Written ps t n rs gs k) :
    ∀ g ∈ (seqs rs).groups, n < g ∧ g ≤ k := by
  intro g hg
  obtain ⟨a, ha, hg⟩ := mem_groups_seqs.mp hg
  exact h.groups_within a ha g hg

theorem mem_groups (h : Written ps t n rs gs k) : ∀ g ∈ gs, ∃ r ∈ rs, g ∈ r.groups := by
  induction h with
  | nil => simp
  | literal _ ih =>
    intro g hg
    obtain ⟨r, hr, hg⟩ := ih g hg
    exact ⟨r, List.mem_append_right _ hr, hg⟩
  | placeholder _ _ _ _ _ ih =>
    intro g hg
    rcases List.mem_cons.mp hg with rfl | hg
    · exact ⟨_, List.mem_cons_self, by rw [groups_slot]; exact List.mem_cons_self⟩
    · obtain ⟨r, hr, hg⟩ := ih g hg
      exact ⟨r, List.mem_cons_of_mem _ hr, hg⟩
  | optional _ _ ihi ihr =>
    intro g hg
    rcases List.mem_cons.mp hg with rfl | hg
    · exact ⟨_, List.mem_cons_self, by rw [groups_opt]; exact List.mem_cons_self⟩
    · rcases List.mem_append.mp hg with hg | hg
      · refine ⟨_, List.mem_cons_self, ?_⟩
        rw [groups_opt]
        exact List.mem_cons_of_mem _ (mem_groups_seqs.mpr (ihi g hg))
      · obtain ⟨r, hr, hg⟩ := ihr g hg
        exact ⟨r, List.mem_cons_of_mem _ hr, hg⟩

theorem mem_within (h : Written ps t n rs gs k) : ∀ g ∈ gs, n < g ∧ g ≤ k := by
  intro g hg
  obtain ⟨r, hr, hg⟩ := h.mem_groups g hg
  exact h.groups_within r hr g hg

theorem pairwise (h : Written ps t n rs gs k) : gs.Pairwise (· < ·) := by
  induction h with
  | nil => exact .nil
  | literal _ ih => exact ih
  | placeholder _ _ _ hk hw ih =>
    exact .cons (fun g hg => by have := hw.mem_within g hg; omega) ih
  | optional hi hr ihi ihr =>
    have hle := hi.le
    refine .cons (fun g hg => ?_) (List.pairwise_append.mpr ⟨ihi, ihr, fun g hg g' hg' => ?_⟩)
    · rcases List.mem_append.mp hg with hg | hg
      · have := hi.mem_within g hg
        omega
      · have := hr.mem_within g hg
        omega
    · have := hi.mem_within g hg
      have := hr.mem_within g' hg'
      omega

/-- In the group for an entry stands what was read for the entry, and no group of that number. -/
theorem contents (h : Written ps t n rs gs k) {g : Nat} {entry : Option String}
    (hg : (g, entry) ∈ gs.zip t.captureOrder) {r c : Regex} (hr : r ∈ rs) (hc : c ∈ r.contents g) :
    g ∉ c.groups ∧ ∀ name, entry = some name →
      ∃ b, Regex.parse (requirement ps name) = .ok b ∧ c.erase = b.erase := by
  have hmem := mem_groups_of_mem_contents hc
  induction h generalizing r with
  | nil => cases hr
  | literal _ ih =>
    rcases List.mem_append.mp hr with hr | hr
    · obtain ⟨d, -, rfl⟩ := List.mem_map.mp hr
      cases hc
    · exact ih hg hr hc hmem
  | @placeholder name rest n k l a b rs gs hb herase ha hk hw ih =>
    rcases List.mem_cons.mp hg with hg | hg <;> rcases List.mem_cons.mp hr with rfl | hr
    · obtain ⟨rfl, rfl⟩ := Prod.mk.inj hg
      have hfresh : n + 1 ∉ a.groups := fun h => Nat.lt_irrefl _ (ha _ h).1
      rw [contents_slot, contents_group hfresh, List.mem_singleton] at hc
      subst hc
      refine ⟨hfresh, ?_⟩
      rintro _ ⟨⟩
      exact ⟨b, hb, herase⟩
    · obtain ⟨rfl, rfl⟩ := Prod.mk.inj hg
      have := hw.groups_within r hr _ hmem
      omega
    · have := hw.mem_within g (List.of_mem_zip hg).1
      rw [groups_slot] at hmem
      have := group_within ha hk g hmem
      omega
    · exact ih hg hr hc hmem
  | @optional inner rest n k l rs rs' gs gs' hi hrest ihi ihr =>
    have hle := hi.le
    have hinner := hi.groups_seqs_within
    rw [captureOrder, List.zip_cons_cons, List.mem_cons, List.zip_append hi.length_eq,
      List.mem_append] at hg
    rcases hg with hg | hg | hg <;> rcases List.mem_cons.mp hr with rfl | hr
    · obtain ⟨rfl, rfl⟩ := Prod.mk.inj hg
      have hfresh : n + 1 ∉ (seqs rs).groups := fun h => Nat.lt_irrefl _ (hinner _ h).1
      rw [contents_opt, contents_group hfresh, List.mem_singleton] at hc
      subst hc
      exact ⟨hfresh, fun _ hname => by cases hname⟩
    · obtain ⟨rfl, rfl⟩ := Prod.mk.inj hg
      have := hrest.groups_within r hr _ hmem
      omega
    · have := hi.mem_within g (List.of_mem_zip hg).1
      rw [contents_opt, Regex.contents, if_neg (by omega), mem_contents_seqs] at hc
      obtain ⟨a, ha, hc⟩ := hc
      exact ihi hg ha hc (mem_groups_of_mem_contents hc)
    · have := hi.mem_within g (List.of_mem_zip hg).1
      have := hrest.groups_within r hr _ hmem
      omega
    · have := hrest.mem_within g (List.of_mem_zip hg).1
      rw [groups_opt] at hmem
      have := group_within hinner hle g hmem
      omega
    · exact ihr hg hr hc hmem

/-- Where no group has a number beyond the count of the entries, the groups for the entries are
numbered one after the other. -/
theorem groups_eq_range' (h : Written ps t 0 rs gs k)
    (hle : ∀ r ∈ rs, ∀ g ∈ r.groups, g ≤ t.captureOrder.length) :
    gs = List.range' 1 t.captureOrder.length := by
  have hbound : ∀ g ∈ gs, 0 < g ∧ g ≤ 0 + gs.length := by
    intro g hg
    obtain ⟨r, hr, hmem⟩ := h.mem_groups g hg
    have := hle r hr g hmem
    have := h.mem_within g hg
    have := h.length_eq
    omega
  rw [eq_range'_of_pairwise h.pairwise hbound, h.length_eq]

end Written

end Template

namespace Pattern

variable {path : String} {ps : Placeholders} {p : Pattern}

/-- The expression of a compiled template has one part for each of its items. -/
theorem exists_written_of_compile (h : compile path ps = .ok p) (ht : p.template.Closed ps) :
    ∃ rs gs k, Template.Written ps p.template 0 rs gs k ∧
      p.regex = seqs (.look .textStart :: (rs ++ [.look .textEnd])) := by
  have hc := compiled_of_compile h
  obtain ⟨fin, hfeed, -, hregex⟩ := exists_feed_of_parse hc.parse_expression
  have htext : p.expression.toList = '^' :: (p.template.body ps ++ ['$']) := by
    rw [hc.expression_eq, Template.expression, String.toList_ofList]
  rw [htext] at hfeed
  obtain ⟨first, hfirst, hfeed⟩ := (ReadAs.textStart (n := 0)).exists_feed rfl rfl
    (Template.head_body_append (by simp)) hfeed
  obtain ⟨qs, rs, gs, k, names, hw, rfl, hfeed⟩ :=
    p.template.exists_written ht (Template.badRequirement?_eq_none_iff.mp hc.requirements) rfl
      (by simp) hfeed
  replace hfeed : feed _ (['$'] ++ []) = .ok fin := hfeed
  obtain ⟨last, hlast, hfeed⟩ := ReadAs.textEnd.exists_feed (by rfl) rfl (by simp) hfeed
  obtain rfl := Except.ok.inj ((feed_nil _).symm.trans hfeed)
  refine ⟨_, gs, k, hw, ?_⟩
  rw [hregex, Branches.regex_close rfl]
  simp [ParseState.add, ParseState.past, ParseState.withParts, hfirst, hlast]

/-- No group has a number beyond the capture order. -/
theorem le_length_of_mem_groups (h : compile path ps = .ok p) {rs : List Regex}
    (hregex : p.regex = seqs (.look .textStart :: (rs ++ [.look .textEnd]))) :
    ∀ r ∈ rs, ∀ g ∈ r.groups, g ≤ p.template.captureOrder.length := by
  intro r hr g hg
  have hc := compiled_of_compile h
  rw [← hc.captureOrder_eq, ← hc.groupCount_eq]
  refine le_groupCount ?_
  rw [hregex, mem_groups_seqs]
  exact ⟨r, by simp [hr], hg⟩

/-- In a group stands what its number says: for a placeholder this is its requirement. -/
theorem contents_of_compile (h : compile path ps = .ok p) (ht : p.template.Closed ps) {i : Nat}
    {entry : Option String} (hi : p.captureOrder[i]? = some entry) {c : Regex}
    (hc : c ∈ p.regex.contents (i + 1)) :
    i + 1 ∉ c.groups ∧ ∀ name, entry = some name →
      ∃ a, Regex.parse (Template.requirement ps name) = .ok a ∧ c.erase = a.erase := by
  obtain ⟨rs, gs, k, hw, hregex⟩ := exists_written_of_compile h ht
  rw [(compiled_of_compile h).captureOrder_eq] at hi
  have hg : (i + 1, entry) ∈ gs.zip p.template.captureOrder := by
    have hlt : i < p.template.captureOrder.length := (List.getElem?_eq_some_iff.mp hi).1
    refine List.mem_of_getElem? (List.getElem?_zip_eq_some.mpr ⟨?_, hi⟩)
    rw [hw.groups_eq_range' (le_length_of_mem_groups h hregex), List.getElem?_range' hlt,
      Nat.one_mul, Nat.add_comm]
  rw [hregex, mem_contents_seqs] at hc
  obtain ⟨r, hr, hc⟩ := hc
  rw [List.mem_cons, List.mem_append, List.mem_singleton] at hr
  rcases hr with rfl | hr | rfl
  · cases hc
  · exact hw.contents hg hr hc
  · cases hc

/-- What the group of a placeholder captured is matched by the requirement of the placeholder on its
own, where that asks for no condition on a place. -/
theorem captured_meets_requirement (h : compile path ps = .ok p)
    (hclosed : ∀ name ∈ p.names,
      (Regex.parse ("(" ++ Template.requirement ps name ++ ")")).isOk = true)
    {target value name : String} {texts : List (Option String)} {i : Nat}
    (hc : p.captures? target = some texts) (hi : p.captureOrder[i]? = some (some name))
    (hvalue : texts[i + 1]? = some (some value)) :
    ∃ a, Regex.parse (Template.requirement ps name) = .ok a ∧
      (a.lookFree = true → a.matchesWhole value.toList = true) := by
  rw [(compiled_of_compile h).names_eq] at hclosed
  obtain ⟨first, last, m, -, hm, htexts⟩ := exists_matches_of_captures? hc
  rw [Nat.add_comm, ← List.getElem?_drop, htexts, List.getElem?_map,
    Option.map_eq_some_iff] at hvalue
  obtain ⟨text, htext, hvalue⟩ := hvalue
  obtain ⟨cs, rfl, rfl⟩ := Option.map_eq_some_iff.mp hvalue
  obtain ⟨place, hplace, rfl⟩ := Marks.exists_place_of_getElem?_texts htext
  rw [Nat.zero_add, Nat.add_comm] at hplace
  -- the content of the group matched where the text was captured
  obtain ⟨c, hmem, n, hn⟩ :=
    exists_matches_of_place? (fun c hc => (contents_of_compile h hclosed hi hc).1) hm hplace
  obtain ⟨a, ha, herase⟩ := (contents_of_compile h hclosed hi hmem).2 name rfl
  refine ⟨a, ha, fun hfree => ?_⟩
  have hcfree : c.lookFree = true := by rw [← lookFree_erase, herase, lookFree_erase, hfree]
  rw [String.toList_ofList, ← matchesWhole_congr herase]
  exact matchesWhole_textAt hcfree hn

/-- A year with flags of its own and a word in a group, whose own groups are changed. -/
def archiveRules : Placeholders :=
  (Placeholders.setRequirement ∅ "year" "(?x) [0-9]{4} ").setRequirement "slug" "(a|(b))+"

theorem archive_meets_requirement :
    ∃ p, compile "/<year>[/<slug>]" archiveRules = .ok p ∧
      p.captures? "/2024/ab" = some [some "/2024/ab", some "2024", some "/ab", some "ab"] ∧
      ∃ a, Regex.parse (Template.requirement archiveRules "slug") = .ok a ∧
        (a.lookFree = true → a.matchesWhole "ab".toList = true) := by
  have : ∃ p, compile "/<year>[/<slug>]" archiveRules = .ok p ∧
      (∀ name ∈ p.names,
        (Regex.parse ("(" ++ Template.requirement archiveRules name ++ ")")).isOk = true) ∧
      p.captures? "/2024/ab" = some [some "/2024/ab", some "2024", some "/ab", some "ab"] ∧
      p.captureOrder[2]? = some (some "slug") := by
    decide +kernel
  obtain ⟨p, hp, hclosed, htexts, hslug⟩ := this
  exact ⟨p, hp, htexts, captured_meets_requirement hp hclosed htexts hslug rfl⟩

/-- A requirement that ends in a comment, which goes on up to the end of a line, and another one
that makes up for its group. -/
def commentRules : Placeholders :=
  (Placeholders.setRequirement ∅ "a" "(?x)a#").setRequirement "b" "#[\n)]"

/-- A comment that takes the parenthesis behind it moves the end of the group. -/
theorem captured_past_comment :
    ∃ p, compile "/<a>\n<b>" commentRules = .ok p ∧
      p.captures? "/a]" = some [some "/a]", some "a]", some ""] ∧
      p.captureOrder[0]? = some (some "a") ∧
      (∃ a, Regex.parse (Template.requirement commentRules "a") = .ok a ∧
        a.lookFree = true ∧ a.matchesWhole "a]".toList = false) ∧
      ∃ b, Regex.parse (Template.requirement commentRules "b") = .ok b ∧ b.lookFree = true := by
  decide +kernel

end Pattern

end PathRoute
