import PathRoute.Proofs.Template.Parsing
import PathRoute.Proofs.Template.Reading
import PathRoute.Route.Build

/-!
# Filling and reading

To fill a template and to read it undo each other, as far as the parameters tell which groups take
part, and the text tells where each value ends.
-/

namespace PathRoute.Template

variable {ps : Placeholders} {qs : Parameters} {t inner rest : Template} {cs ds w : List Char}
  {vs ws : List (Option (List Char))} {name : String}

/-- The parameters have what the placeholders take, and no value where these take nothing. -/
def Agrees (qs : Parameters) (t : Template) (vs : List (Option (List Char))) : Prop :=
  ∀ name v, (name, v) ∈ t.values vs → (qs[name]?).join = v.map String.ofList

/-- No placeholder of the template has a default. -/
def Undefaulted (ps : Placeholders) (t : Template) : Prop :=
  ∀ name ∈ t.names, (ps.rules name).default = none

theorem undefaulted_empty (t : Template) : t.Undefaulted ∅ := by
  intro name _
  rw [Placeholders.rules_empty]

namespace Undefaulted

theorem of_placeholder (h : (placeholder name rest).Undefaulted ps) : rest.Undefaulted ps :=
  fun n hn => h n (List.mem_cons_of_mem _ hn)

theorem inner_of_optional (h : (optional inner rest).Undefaulted ps) : inner.Undefaulted ps :=
  fun n hn => h n (List.mem_append_left _ hn)

theorem rest_of_optional (h : (optional inner rest).Undefaulted ps) : rest.Undefaulted ps :=
  fun n hn => h n (List.mem_append_right _ hn)

end Undefaulted

/-! ## Reading what was filled -/

/-- In every optional group some placeholder stands right at the level of the group. -/
def GroupsGuarded : Template → Prop
  | .nil => True
  | .literal _ rest => rest.GroupsGuarded
  | .placeholder _ rest => rest.GroupsGuarded
  | .optional inner rest => inner.required ≠ [] ∧ inner.GroupsGuarded ∧ rest.GroupsGuarded

/-- No value is given for a placeholder in a group that is left out. -/
def DroppedValueless (qs : Parameters) : Template → Prop
  | .nil => True
  | .literal _ rest => rest.DroppedValueless qs
  | .placeholder _ rest => rest.DroppedValueless qs
  | .optional inner rest =>
    (inner.fill qs = none → ∀ name ∈ inner.names, (qs[name]?).join = none) ∧
      inner.DroppedValueless qs ∧ rest.DroppedValueless qs

theorem fill_eq_none (hr : name ∈ t.required) (hn : (qs[name]?).join = none) :
    t.fill qs = none := by
  induction t with
  | nil => cases hr
  | literal _ _ ih => simp [fill, ih hr]
  | placeholder other rest ih =>
    rcases List.mem_cons.mp hr with rfl | hr
    · simp [fill, hn]
    · simp [fill, ih hr]
  | optional _ _ _ ihr => simp [fill, ihr hr]

/-- A template can be filled if each placeholder outside of the groups has a value. -/
theorem exists_fill (h : ∀ name ∈ t.required, ((qs[name]?).join).isSome = true) :
    ∃ cs, t.fill qs = some cs := by
  induction t with
  | nil => exact ⟨[], rfl⟩
  | literal _ _ ih =>
    obtain ⟨cs, hcs⟩ := ih h
    simp [fill, hcs]
  | placeholder name rest ih =>
    obtain ⟨value, hvalue⟩ := Option.isSome_iff_exists.mp (h name List.mem_cons_self)
    obtain ⟨cs, hcs⟩ := ih fun n hn => h n (List.mem_cons_of_mem _ hn)
    simp [fill, hvalue, hcs]
  | optional _ _ _ ihr =>
    obtain ⟨cs, hcs⟩ := ihr h
    simp [fill, hcs]

theorem isSome_fill_iff :
    (t.fill qs).isSome = true ↔ ∀ name ∈ t.required, ((qs[name]?).join).isSome = true := by
  constructor
  · intro h name hname
    rw [← Option.ne_none_iff_isSome] at h ⊢
    exact fun hnone => h (fill_eq_none hname hnone)
  · intro h
    exact Option.isSome_iff_exists.mpr (exists_fill h)

theorem agrees_placeholder {v : Option (List Char)} :
    Agrees qs (.placeholder name rest) (v :: vs) ↔
      (qs[name]?).join = v.map String.ofList ∧ Agrees qs rest vs := by
  simp only [Agrees, values_placeholder, List.mem_cons, Prod.mk.injEq]
  constructor
  · intro h
    exact ⟨h name v (.inl ⟨rfl, rfl⟩), fun other w hw => h other w (.inr hw)⟩
  · rintro ⟨hv, hrest⟩ other w (⟨rfl, rfl⟩ | hw)
    · exact hv
    · exact hrest other w hw

theorem agrees_optional {v : Option (List Char)} (hlen : ws.length = inner.captureOrder.length) :
    Agrees qs (.optional inner rest) (v :: (ws ++ vs)) ↔
      Agrees qs inner ws ∧ Agrees qs rest vs := by
  simp only [Agrees, values_optional hlen, List.mem_append]
  constructor
  · intro h
    exact ⟨fun n w hw => h n w (.inl hw), fun n w hw => h n w (.inr hw)⟩
  · rintro ⟨hinner, hrest⟩ n w (hw | hw)
    · exact hinner n w hw
    · exact hrest n w hw

theorem agrees_replicate :
    Agrees qs t (.replicate t.captureOrder.length none) ↔
      ∀ name ∈ t.names, (qs[name]?).join = none := by
  simp only [Agrees, values_replicate, List.mem_map, Prod.mk.injEq]
  constructor
  · intro h name hn
    exact h name none ⟨name, hn, rfl, rfl⟩
  · rintro h _ _ ⟨name, hn, rfl, rfl⟩
    exact h name hn

/-- A template that is filled with what a reading took gives the text back. -/
theorem fill_of_reads (h : Reads ps t cs vs) (hd : t.Undefaulted ps) (hg : t.GroupsGuarded)
    (ha : Agrees qs t vs) : t.fill qs = some cs := by
  induction h with
  | nil => rfl
  | literal _ ih => rw [fill, ih hd hg ha, Option.map_some]
  | word _ _ ih =>
    obtain ⟨hv, ha⟩ := agrees_placeholder.mp ha
    have hrest := ih hd.of_placeholder hg ha
    simp [fill, hv, hrest]
  | blank hsome =>
    rw [hd _ List.mem_cons_self] at hsome
    cases hsome
  | group hi _ ihi ihr =>
    obtain ⟨-, hgi, hgr⟩ := hg
    obtain ⟨hai, har⟩ := (agrees_optional hi.length_eq).mp ha
    rw [fill, ihi hd.inner_of_optional hgi hai, ihr hd.rest_of_optional hgr har, Option.map_some,
      Option.getD_some]
  | @noGroup inner rest cs vs _ ih =>
    obtain ⟨hne, -, hgr⟩ := hg
    obtain ⟨hai, har⟩ := (agrees_optional List.length_replicate).mp ha
    -- the placeholder at the level of the group has no value
    obtain ⟨name, hname⟩ := List.exists_mem_of_ne_nil _ hne
    have hnone := agrees_replicate.mp hai name (inner.required_sublist.mem hname)
    rw [fill, fill_eq_none hname hnone, ih hd.rest_of_optional hgr har, Option.map_some,
      Option.getD_none, List.nil_append]

/-- What a template was filled with can be read, if the values are words. One reading takes the
values back, unless some are given for a group that is left out. -/
theorem exists_reads_of_fill_of_words (h : t.fill qs = some cs)
    (hw : ∀ name ∈ t.names, ∀ value, qs[name]? = some (some value) → IsWord value.toList) :
    ∃ vs, Reads ps t cs vs ∧ (t.DroppedValueless qs → Agrees qs t vs) := by
  induction t generalizing cs with
  | nil =>
    cases h
    exact ⟨[], .nil, by simp [Agrees]⟩
  | literal text rest ih =>
    obtain ⟨ds, hds, rfl⟩ := Option.map_eq_some_iff.mp h
    obtain ⟨vs, hvs, ha⟩ := ih hds hw
    exact ⟨vs, .literal hvs, ha⟩
  | placeholder name rest ih =>
    simp only [fill, Option.bind_eq_bind, Option.bind_eq_some_iff, Option.pure_def,
      Option.some.injEq] at h
    obtain ⟨value, hvalue, ds, hds, rfl⟩ := h
    obtain ⟨vs, hvs, ha⟩ := ih hds fun n hn => hw n (List.mem_cons_of_mem _ hn)
    have hword := hw name List.mem_cons_self value (Option.join_eq_some_iff.mp hvalue)
    refine ⟨_, .word hword hvs, fun hv => agrees_placeholder.mpr ⟨?_, ha hv⟩⟩
    rw [hvalue, Option.map_some, String.ofList_toList]
  | optional inner rest ihi ihr =>
    obtain ⟨ds, hds, rfl⟩ := Option.map_eq_some_iff.mp h
    obtain ⟨vs, hvs, ha⟩ := ihr hds fun n hn => hw n (List.mem_append_right _ hn)
    cases hfill : inner.fill qs with
    | none =>
      refine ⟨_, .noGroup hvs, fun ⟨hdropped, _, hv⟩ =>
        (agrees_optional List.length_replicate).mpr ⟨?_, ha hv⟩⟩
      exact agrees_replicate.mpr (hdropped hfill)
    | some ci =>
      obtain ⟨vi, hvi, hai⟩ := ihi hfill fun n hn => hw n (List.mem_append_left _ hn)
      exact ⟨_, .group hvi hvs, fun ⟨_, hi, hv⟩ =>
        (agrees_optional hvi.length_eq).mpr ⟨hai hi, ha hv⟩⟩

/-- What a template was filled with can be read, and one reading takes the values back. -/
theorem exists_reads_of_fill (h : t.fill qs = some cs)
    (hw : ∀ name ∈ t.names, ∀ value, qs[name]? = some (some value) → IsWord value.toList)
    (hv : t.DroppedValueless qs) : ∃ vs, Reads ps t cs vs ∧ Agrees qs t vs := by
  obtain ⟨vs, hvs, ha⟩ := exists_reads_of_fill_of_words h hw
  exact ⟨vs, hvs, ha hv⟩

/-- The slashes at the front of a template are at the front of what it is filled to. -/
theorem prefix_of_fill (h : t.fill qs = some cs) :
    List.replicate t.leadingSlashes '/' <+: cs := by
  cases t with
  | literal text rest =>
    obtain ⟨ds, -, rfl⟩ := Option.map_eq_some_iff.mp h
    have hslashes : text.toList.takeWhile (· == '/') =
        List.replicate (literal text rest).leadingSlashes '/' := by
      refine List.eq_replicate_iff.mpr ⟨rfl, fun c hc => ?_⟩
      simpa using List.all_eq_true.mp List.all_takeWhile c hc
    rw [← hslashes]
    exact (List.takeWhile_prefix _).trans (List.prefix_append _ _)
  | nil | placeholder | optional => exact List.nil_prefix

/-- A text that is read has no characters but those of literals and of words. -/
theorem Reads.not_mem {c : Char} (h : Reads ps t cs vs) (hl : ∀ text ∈ t.literals, c ∉ text.toList)
    (hc : CharClass.word.contains c = false) : c ∉ cs := by
  have hword : ∀ {w : List Char}, IsWord w → c ∉ w := by
    intro w hw hmem
    rw [hw.2 c hmem] at hc
    cases hc
  induction h with
  | nil => exact List.not_mem_nil
  | literal _ ih =>
    rw [List.mem_append, not_or]
    exact ⟨hl _ List.mem_cons_self, ih fun s hs => hl s (List.mem_cons_of_mem _ hs)⟩
  | word hw _ ih =>
    rw [List.mem_append, not_or]
    exact ⟨hword hw, ih hl⟩
  | blank _ _ ih => exact ih hl
  | group _ _ ihi ihr =>
    rw [List.mem_append, not_or]
    exact ⟨ihi fun s hs => hl s (List.mem_append_left _ hs),
      ihr fun s hs => hl s (List.mem_append_right _ hs)⟩
  | noGroup _ ih => exact ih fun s hs => hl s (List.mem_append_right _ hs)

/-! ## One text, one reading -/

/-- Optional groups stand last at their level. -/
def GroupsLast : Template → Prop
  | .nil => True
  | .literal _ rest => rest.GroupsLast
  | .placeholder _ rest => rest.GroupsLast
  | .optional inner rest => rest = .nil ∧ inner.GroupsLast

/-- The template begins with a literal whose first character belongs to no word. -/
def BeginsApart : Template → Prop
  | .literal text _ => ∃ c cs, text.toList = c :: cs ∧ CharClass.word.contains c = false
  | _ => False

/-- The template may follow a placeholder: it is at its end, or begins apart from words, or has a
group that does. -/
def Delimits : Template → Prop
  | .nil => True
  | .optional inner _ => inner.BeginsApart
  | t => t.BeginsApart

/-- After each placeholder it is clear where its value ends. -/
def Delimited : Template → Prop
  | .nil => True
  | .literal _ rest => rest.Delimited
  | .placeholder _ rest => rest.Delimits ∧ rest.Delimited
  | .optional inner rest => inner.Delimited ∧ rest.Delimited

theorem Reads.head_of_beginsApart (h : Reads ps t cs vs) (hb : t.BeginsApart) :
    ∀ c ∈ cs.head?, CharClass.word.contains c = false := by
  cases h with
  | literal h =>
    obtain ⟨c, text, htext, hc⟩ := hb
    rw [htext]
    rintro d hd
    cases hd
    exact hc
  | _ => cases hb

theorem Reads.head_of_delimits (h : Reads ps t cs vs) (hl : t.GroupsLast) (hd : t.Delimits) :
    ∀ c ∈ cs.head?, CharClass.word.contains c = false := by
  cases h with
  | nil => simp
  | literal h => exact (Reads.literal h).head_of_beginsApart hd
  | word | blank => cases hd
  | group hi hr =>
    obtain ⟨rfl, -⟩ := hl
    cases hr
    rw [List.append_nil]
    exact hi.head_of_beginsApart hd
  | noGroup hr =>
    obtain ⟨rfl, -⟩ := hl
    cases hr
    simp

/-- A word that is followed by no character of words is what stands there of such characters. -/
theorem takeWhile_word (hw : IsWord w) (hc : ∀ c ∈ cs.head?, CharClass.word.contains c = false) :
    (w ++ cs).takeWhile CharClass.word.contains = w := by
  rw [List.takeWhile_append_of_pos hw.2]
  cases cs with
  | nil => rw [List.takeWhile_nil, List.append_nil]
  | cons c cs =>
    rw [List.takeWhile_cons_of_neg (by simp [hc c rfl]), List.append_nil]

theorem values_of_reads_nil (h : Reads ps t [] vs) : t.values vs = t.names.map (·, none) := by
  generalize hcs : ([] : List Char) = cs at h
  induction h with
  | nil => rfl
  | literal _ ih => exact ih (List.append_eq_nil_iff.mp hcs.symm).2.symm
  | word hw => exact absurd (List.append_eq_nil_iff.mp hcs.symm).1 hw.1
  | blank _ _ ih => exact congrArg _ (ih hcs)
  | group hi _ ihi ihr =>
    obtain ⟨hi', hr'⟩ := List.append_eq_nil_iff.mp hcs.symm
    rw [values_optional hi.length_eq, ihi hi'.symm, ihr hr'.symm, names, List.map_append]
  | noGroup _ ih =>
    rw [values_optional List.length_replicate, values_replicate, ih hcs, names, List.map_append]

theorem Reads.exists_of_literal {text : String} (h : Reads ps (.literal text rest) cs vs) :
    ∃ ds, cs = text.toList ++ ds ∧ Reads ps rest ds vs := by
  cases h with
  | literal h => exact ⟨_, rfl, h⟩

theorem Reads.exists_of_placeholder (h : Reads ps (.placeholder name rest) cs vs)
    (hd : (ps.rules name).default = none) :
    ∃ w ds us, cs = w ++ ds ∧ vs = some w :: us ∧ IsWord w ∧ Reads ps rest ds us := by
  cases h with
  | word hw h => exact ⟨_, _, _, rfl, rfl, hw, h⟩
  | blank hsome =>
    rw [hd] at hsome
    cases hsome

/-- What a group at the end of its level takes is all of the text or nothing. -/
theorem Reads.exists_of_optional (h : Reads ps (.optional inner .nil) cs vs) :
    (∃ us, Reads ps inner cs us ∧ (optional inner .nil).values vs = inner.values us) ∨
      (cs = [] ∧ (optional inner .nil).values vs = inner.names.map (·, none)) := by
  cases h with
  | group hi hr =>
    cases hr
    rw [List.append_nil, values_optional hi.length_eq, values_nil, List.append_nil]
    exact .inl ⟨_, hi, rfl⟩
  | noGroup hr =>
    cases hr
    rw [values_optional List.length_replicate, values_replicate, values_nil, List.append_nil]
    exact .inr ⟨rfl, rfl⟩

/-- Where groups stand last and values end clearly, all readings of a text take the same values. -/
theorem values_eq_of_reads (hd : t.Undefaulted ps) (hl : t.GroupsLast) (hb : t.Delimited)
    (h : Reads ps t cs vs) (h' : Reads ps t cs ws) : t.values vs = t.values ws := by
  induction t generalizing cs vs ws with
  | nil =>
    cases h
    cases h'
    rfl
  | literal text rest ih =>
    obtain ⟨ds, rfl, hds⟩ := h.exists_of_literal
    obtain ⟨es, heq, hes⟩ := h'.exists_of_literal
    obtain rfl := List.append_cancel_left heq
    exact ih hd hl hb hds hes
  | placeholder name rest ih =>
    have hname := hd name List.mem_cons_self
    obtain ⟨hdelimits, hb⟩ := hb
    obtain ⟨v, ds, vs, rfl, rfl, hv, hds⟩ := h.exists_of_placeholder hname
    obtain ⟨w, es, ws, heq, rfl, hw, hes⟩ := h'.exists_of_placeholder hname
    have hvw : v = w := by
      rw [← takeWhile_word hv (hds.head_of_delimits hl hdelimits), heq,
        takeWhile_word hw (hes.head_of_delimits hl hdelimits)]
    subst hvw
    obtain rfl := List.append_cancel_left heq
    rw [values_placeholder, values_placeholder, ih hd.of_placeholder hl hb hds hes]
  | optional inner rest ih _ =>
    obtain ⟨rfl, hl⟩ := hl
    have hdi := hd.inner_of_optional
    rcases h.exists_of_optional with ⟨us, hus, hvs⟩ | ⟨rfl, hvs⟩
    · rcases h'.exists_of_optional with ⟨us', hus', hws⟩ | ⟨rfl, hws⟩
      · rw [hvs, hws, ih hdi hl hb.1 hus hus']
      · rw [hvs, hws, values_of_reads_nil hus]
    · rcases h'.exists_of_optional with ⟨us', hus', hws⟩ | ⟨-, hws⟩
      · rw [hvs, hws, values_of_reads_nil hus']
      · rw [hvs, hws]

end PathRoute.Template
