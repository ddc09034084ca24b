import Mathlib.Computability.Language
import PathRoute.Placeholders
import PathRoute.Template.Basic
import PathRoute.Text.CharClass

/-!
# How a template reads a path

A template whose placeholders take words describes a language of paths: `Template.language`. A
reading says more, namely what each placeholder and each group takes of the path. The paths of the
language are those that can be read.
-/

namespace PathRoute

/-- Characters of words, at least one. -/
def IsWord (cs : List Char) : Prop := cs ≠ [] ∧ ∀ c ∈ cs, CharClass.word.contains c = true

theorem isWord_singleton {c : Char} (h : CharClass.word.contains c = true) : IsWord [c] := by
  refine ⟨List.cons_ne_nil _ _, fun d hd => ?_⟩
  rwa [List.mem_singleton.mp hd]

/-- The language of words. -/
def words : Language Char := {w | IsWord w}

namespace Template

variable {ps : Placeholders}

/-- The paths that a template describes. A placeholder takes a word, or with a default possibly
nothing; an optional group takes what its items take, or nothing. -/
def language (ps : Placeholders) : Template → Language Char
  | .nil => 1
  | .literal text rest => {text.toList} * rest.language ps
  | .placeholder name rest =>
    (words + if (ps.rules name).default.isSome then 1 else 0) * rest.language ps
  | .optional inner rest => (1 + inner.language ps) * rest.language ps

/-- The template reads the text, and these are the parts that its placeholders and its groups take,
in capture order. One that takes no part in the reading has none. -/
inductive Reads (ps : Placeholders) : Template → List Char → List (Option (List Char)) → Prop where
  | nil : Reads ps .nil [] []
  | literal {text : String} {rest : Template} {cs : List Char} {vs : List (Option (List Char))} :
      Reads ps rest cs vs → Reads ps (.literal text rest) (text.toList ++ cs) vs
  | word {name : String} {rest : Template} {w cs : List Char} {vs : List (Option (List Char))} :
      IsWord w → Reads ps rest cs vs → Reads ps (.placeholder name rest) (w ++ cs) (some w :: vs)
  | blank {name : String} {rest : Template} {cs : List Char} {vs : List (Option (List Char))} :
      (ps.rules name).default.isSome = true → Reads ps rest cs vs →
      Reads ps (.placeholder name rest) cs (none :: vs)
  | group {inner rest : Template} {ci cs : List Char} {vi vs : List (Option (List Char))} :
      Reads ps inner ci vi → Reads ps rest cs vs →
      Reads ps (.optional inner rest) (ci ++ cs) (some ci :: (vi ++ vs))
  | noGroup {inner rest : Template} {cs : List Char} {vs : List (Option (List Char))} :
      Reads ps rest cs vs →
      Reads ps (.optional inner rest) cs
        (none :: (List.replicate inner.captureOrder.length none ++ vs))

/-- What the placeholders of a template take, by their names. -/
def values (t : Template) (vs : List (Option (List Char))) : List (String × Option (List Char)) :=
  (t.captureOrder.zip vs).filterMap fun (name, v) => name.map (·, v)

section Values

variable {t inner rest : Template} {name text : String} {v : Option (List Char)}
  {vi vs : List (Option (List Char))}

@[simp] theorem values_nil : nil.values vs = [] := rfl

@[simp] theorem values_placeholder :
    (placeholder name rest).values (v :: vs) = (name, v) :: rest.values vs := rfl

theorem values_optional (h : vi.length = inner.captureOrder.length) :
    (optional inner rest).values (v :: (vi ++ vs)) = inner.values vi ++ rest.values vs := by
  simp [values, captureOrder, List.zip_append h.symm]

theorem mem_values_iff : (name, v) ∈ t.values vs ↔ (some name, v) ∈ t.captureOrder.zip vs := by
  rw [values, List.mem_filterMap]
  constructor
  · rintro ⟨⟨_ | other, w⟩, hmem, heq⟩
    · cases heq
    · cases heq
      exact hmem
  · intro h
    exact ⟨_, h, rfl⟩

theorem map_fst_values (h : vs.length = t.captureOrder.length) :
    (t.values vs).map Prod.fst = t.names := by
  have hfst : (t.captureOrder.zip vs).map Prod.fst = t.captureOrder :=
    List.map_fst_zip (Nat.le_of_eq h.symm)
  conv => rhs; rw [names_eq, ← hfst]
  rw [values, List.filterMap_map, List.map_filterMap]
  congr 1
  funext ⟨name, v⟩
  cases name <;> rfl

theorem values_replicate :
    t.values (.replicate t.captureOrder.length none) = t.names.map (·, none) := by
  induction t with
  | nil => rfl
  | literal _ _ ih => exact ih
  | placeholder _ _ ih => exact congrArg _ ih
  | optional inner rest ihi ihr =>
    rw [captureOrder, List.length_cons, List.length_append, List.replicate_succ,
      ← List.replicate_append_replicate, values_optional List.length_replicate, ihi, ihr, names,
      List.map_append]

end Values

namespace Reads

variable {t inner rest : Template} {name : String} {cs w : List Char}
  {vs : List (Option (List Char))}

theorem length_eq (h : Reads ps t cs vs) : vs.length = t.captureOrder.length := by
  induction h with
  | nil => rfl
  | literal _ ih => exact ih
  | word _ _ ih | blank _ _ ih => simp [captureOrder, ih]
  | group _ _ ihi ihr => simp [captureOrder, ihi, ihr]
  | noGroup _ ih => simp [captureOrder, ih]

/-- What a placeholder takes is a word. -/
theorem isWord_of_mem (h : Reads ps t cs vs) (hm : (name, some w) ∈ t.values vs) : IsWord w := by
  induction h with
  | nil => cases hm
  | literal _ ih => exact ih hm
  | word hw _ ih =>
    rcases List.mem_cons.mp hm with heq | hm
    · cases heq
      exact hw
    · exact ih hm
  | blank _ _ ih =>
    rcases List.mem_cons.mp hm with heq | hm
    · cases heq
    · exact ih hm
  | group hi _ ihi ihr =>
    rw [values_optional hi.length_eq] at hm
    exact (List.mem_append.mp hm).elim ihi ihr
  | noGroup _ ih =>
    rw [values_optional List.length_replicate, values_replicate] at hm
    rcases List.mem_append.mp hm with hm | hm
    · simp at hm
    · exact ih hm

/-- A placeholder outside every optional group takes something, where it has no default. -/
theorem isSome_of_required (h : Reads ps t cs vs) (hn : t.names.Nodup)
    (hd : ∀ name ∈ t.required, (ps.rules name).default = none) {v : Option (List Char)}
    (hm : (name, v) ∈ t.values vs) (hr : name ∈ t.required) : v.isSome = true := by
  induction h with
  | nil => cases hm
  | literal _ ih => exact ih hn hd hm hr
  | @word other rest w cs vs _ hrest ih =>
    obtain ⟨hnew, hn⟩ := List.nodup_cons.mp hn
    rcases List.mem_cons.mp hm with heq | hm
    · cases heq
      rfl
    · have hmem : name ∈ rest.names := map_fst_values hrest.length_eq ▸ List.mem_map_of_mem hm
      rcases List.mem_cons.mp hr with rfl | hr
      · exact absurd hmem hnew
      · exact ih hn (fun n h => hd n (List.mem_cons_of_mem _ h)) hm hr
  | blank hsome =>
    rw [hd _ List.mem_cons_self] at hsome
    cases hsome
  | @group inner rest ci cs vi vs hi _ _ ihr =>
    obtain ⟨-, hnr, hdisjoint⟩ := List.nodup_append.mp hn
    rw [values_optional hi.length_eq] at hm
    rcases List.mem_append.mp hm with hm | hm
    · have hmem : name ∈ inner.names := map_fst_values hi.length_eq ▸ List.mem_map_of_mem hm
      exact absurd rfl (hdisjoint _ hmem _ (rest.required_sublist.mem hr))
    · exact ihr hnr hd hm hr
  | @noGroup inner rest cs vs _ ih =>
    obtain ⟨-, hnr, hdisjoint⟩ := List.nodup_append.mp hn
    rw [values_optional List.length_replicate, values_replicate] at hm
    rcases List.mem_append.mp hm with hm | hm
    · obtain ⟨_, hmem, heq⟩ := List.mem_map.mp hm
      cases heq
      exact absurd rfl (hdisjoint _ hmem _ (rest.required_sublist.mem hr))
    · exact ih hnr hd hm hr

end Reads

/-- The paths of the language are those that can be read. -/
theorem mem_language_iff {t : Template} {cs : List Char} :
    cs ∈ t.language ps ↔ ∃ vs, Reads ps t cs vs := by
  induction t generalizing cs with
  | nil =>
    rw [language, Language.mem_one]
    constructor
    · rintro rfl
      exact ⟨[], .nil⟩
    · rintro ⟨_, h⟩
      cases h
      rfl
  | literal text rest ih =>
    rw [language, Language.mem_mul]
    constructor
    · rintro ⟨_, rfl, b, hb, rfl⟩
      obtain ⟨vs, hvs⟩ := ih.mp hb
      exact ⟨vs, .literal hvs⟩
    · rintro ⟨vs, h⟩
      cases h with
      | literal h => exact ⟨_, rfl, _, ih.mpr ⟨vs, h⟩, rfl⟩
  | placeholder name rest ih =>
    rw [language, Language.mem_mul]
    constructor
    · rintro ⟨a, ha, b, hb, rfl⟩
      obtain ⟨vs, hvs⟩ := ih.mp hb
      rcases (Language.mem_add _ _ _).mp ha with hw | hd
      · exact ⟨_, .word hw hvs⟩
      · split at hd
        · obtain rfl := (Language.mem_one _).mp hd
          exact ⟨_, .blank ‹_› hvs⟩
        · exact absurd hd (Language.notMem_zero _)
    · rintro ⟨_, h⟩
      cases h with
      | word hw h => exact ⟨_, .inl hw, _, ih.mpr ⟨_, h⟩, rfl⟩
      | blank hd h =>
        refine ⟨[], .inr ?_, cs, ih.mpr ⟨_, h⟩, rfl⟩
        rw [if_pos hd]
        rfl
  | optional inner rest ihi ihr =>
    rw [language, Language.mem_mul]
    constructor
    · rintro ⟨a, ha, b, hb, rfl⟩
      obtain ⟨vs, hvs⟩ := ihr.mp hb
      rcases (Language.mem_add _ _ _).mp ha with hn | hi
      · obtain rfl := (Language.mem_one _).mp hn
        exact ⟨_, .noGroup hvs⟩
      · obtain ⟨vi, hvi⟩ := ihi.mp hi
        exact ⟨_, .group hvi hvs⟩
    · rintro ⟨_, h⟩
      cases h with
      | group hi h => exact ⟨_, .inr (ihi.mpr ⟨_, hi⟩), _, ihr.mpr ⟨_, h⟩, rfl⟩
      | noGroup h => exact ⟨[], .inl rfl, cs, ihr.mpr ⟨_, h⟩, rfl⟩

end Template

end PathRoute
