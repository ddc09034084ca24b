import Mathlib.Data.List.Nodup
import PathRoute.Formats
import PathRoute.Proofs.Overwriting

/-!
# Formats by name and by media type

A format is chosen by its media type and then asked for by its name. What is found by the name is
the format that was chosen if no earlier one has the same name, and else it is one that the client
does not accept.

A table keeps its formats in the order in which their names were added first. A format that is added
again takes the place of the one before, so that its name is found once, with the media type that
was given last. In such a table what is chosen by its media type is found by its name.
-/

namespace PathRoute.Formats

/-! ## Names and media types -/

variable {t : Formats} {f : Format} {accept name : String}

/-- The media type of the format with a name is one that the client accepts. -/
def Serves (t : Formats) (accept name : String) : Prop :=
  ∃ mime, t.mime? name = some mime ∧ mime.toList <:+: accept.toList

instance (t : Formats) (accept name : String) : Decidable (t.Serves accept name) :=
  decidable_of_iff (∃ mime ∈ t.mime? name, Accepted accept ⟨name, mime⟩) Iff.rfl

/-- The entry that is found by the name of a format. -/
def named? (t : Formats) (name : String) : Option Format := t.entries.find? (·.name == name)

theorem mime?_eq (t : Formats) (name : String) : t.mime? name = (t.named? name).map (·.mime) := rfl

theorem name_of_named? (h : t.named? name = some f) : f.name = name := by
  rw [named?, List.find?_eq_some_iff_append] at h
  exact beq_iff_eq.mp h.1

/-- Where no two formats have one name, each is found by its name. -/
theorem named?_of_nodup (hn : (t.entries.map (·.name)).Nodup) (hf : f ∈ t.entries) :
    t.named? f.name = some f := by
  have hunique : ∀ g ∈ t.entries, g.name = f.name → g = f :=
    fun g hg hname => List.inj_on_of_nodup_map hn hg hf hname
  obtain ⟨g, hg⟩ : ∃ g, t.named? f.name = some g :=
    Option.isSome_iff_exists.mp (List.find?_isSome.mpr ⟨f, hf, beq_self_eq_true f.name⟩)
  rw [hg, hunique g (List.mem_of_find?_eq_some hg) (name_of_named? hg)]

/-- The first accepted format is the one to answer in. -/
theorem negotiate_eq (h : t.entries.find? (Accepted accept ·) = some f) :
    t.negotiate accept none = f.name := by
  simp [negotiate, h]

/-- The name of the first accepted format serves the client if it is found by that name. An earlier
one of the same name would not be accepted. -/
theorem serves_iff (h : t.entries.find? (Accepted accept ·) = some f) :
    t.Serves accept f.name ↔ t.named? f.name = some f := by
  obtain ⟨haccepted, before, after, hentries, hbefore⟩ := List.find?_eq_some_iff_append.mp h
  constructor
  · rintro ⟨mime, hmime, hin⟩
    rw [mime?_eq, Option.map_eq_some_iff] at hmime
    obtain ⟨g, hg, rfl⟩ := hmime
    rw [named?, hentries, List.find?_append] at hg ⊢
    cases hfirst : before.find? (·.name == f.name) with
    | none => simp
    | some g' =>
      obtain rfl : g' = g := by simpa [hfirst] using hg
      have hnot := hbefore g' (List.mem_of_find?_eq_some hfirst)
      simp [Accepted, hin] at hnot
  · intro hnamed
    refine ⟨f.mime, ?_, ?_⟩
    · rw [mime?_eq, hnamed, Option.map_some]
    · exact of_decide_eq_true haccepted

/-! ## Formats that are added -/

/-- The names of the formats in the order of the table. -/
def names (t : Formats) : List String := t.entries.map (·.name)

/-- The media type that a format has for a name, if it has this name. -/
def mimeOf? (name : String) (f : Format) : Option String :=
  if f.name = name then some f.mime else none

theorem contains_iff : t.contains name = true ↔ name ∈ t.names := by
  simp [contains, names]

/-! ## One format -/

theorem map_name_place (f : Format) (gs : List Format) :
    (place f gs).map (·.name) =
      gs.map (·.name) ++ if f.name ∈ gs.map (·.name) then [] else [f.name] := by
  induction gs with
  | nil => rfl
  | cons g gs ih =>
    by_cases h : g.name = f.name
    · simp [place, h]
    · have hne : f.name ≠ g.name := Ne.symm h
      simp only [place, if_neg h, List.map_cons, ih, List.cons_append, List.mem_cons, hne, false_or]

/-- A new name comes last, and names that are there stay where they are. -/
theorem names_insert (t : Formats) (f : Format) :
    (t.insert f).names = t.names ++ if f.name ∈ t.names then [] else [f.name] :=
  map_name_place f t.entries

theorem nodup_names_insert (h : t.names.Nodup) (f : Format) : (t.insert f).names.Nodup := by
  rw [names_insert]
  split
  · simpa using h
  · rename_i hnew
    refine List.nodup_append.mpr ⟨h, List.nodup_singleton _, fun a ha b hb => ?_⟩
    rintro rfl
    exact hnew (List.mem_singleton.mp hb ▸ ha)

theorem find?_place (f : Format) (gs : List Format) (name : String) :
    (place f gs).find? (·.name == name) =
      if f.name = name then some f else gs.find? (·.name == name) := by
  induction gs with
  | nil => grind [place]
  | cons g gs ih => grind [place]

/-- What is found by the name of the added format is that format. Nothing else changes. -/
theorem mime?_insert (t : Formats) (f : Format) (name : String) :
    (t.insert f).mime? name = (mimeOf? name f).or (t.mime? name) := by
  have hfind : (t.insert f).mime? name =
      ((place f t.entries).find? (·.name == name)).map (·.mime) := rfl
  rw [hfind, find?_place, mimeOf?]
  split <;> rfl

/-! ## Several formats -/

/-- The names that are added come after those that are there, each in the place of its first
appearance. -/
theorem names_foldl_insert (t : Formats) (fs : List Format) :
    (fs.foldl insert t).names = t.names ++ ((fs.map (·.name)).removeAll t.names).eraseDups := by
  induction fs generalizing t with
  | nil => simp [List.removeAll]
  | cons f fs ih =>
    rw [List.foldl_cons, ih, names_insert]
    by_cases h : f.name ∈ t.names
    · simp [List.removeAll, h]
    · -- what is left of the other names is the same in either order
      have hrest : (fs.map (·.name)).removeAll (t.names ++ [f.name]) =
          ((fs.map (·.name)).removeAll t.names).filter fun name => !name == f.name := by
        rw [List.removeAll, List.removeAll, List.filter_filter]
        refine List.filter_congr fun name _ => ?_
        by_cases hname : name = f.name <;> simp [hname]
      have hfirst : (f.name :: fs.map (·.name)).removeAll t.names =
          f.name :: (fs.map (·.name)).removeAll t.names := by
        simp [List.removeAll, h]
      rw [if_neg h, hrest, List.map_cons, hfirst, List.eraseDups_cons, List.append_assoc,
        List.singleton_append]

theorem nodup_names_foldl_insert (h : t.names.Nodup) (fs : List Format) :
    (fs.foldl insert t).names.Nodup := by
  induction fs generalizing t with
  | nil => exact h
  | cons f fs ih => exact ih (nodup_names_insert h f)

/-- The last format that was added under a name counts. -/
theorem mime?_foldl_insert (t : Formats) (fs : List Format) (name : String) :
    (fs.foldl insert t).mime? name = ((fs.filterMap (mimeOf? name)).getLast?).or (t.mime? name) :=
  foldl_eq_getLast?_or (f := fun t => t.mime? name) (fun t f _ => mime?_insert t f name) t

/-! ## The format to answer in -/

/-- The name of the format that a client is answered in: that of the first one it accepts, by which
a media type is found that it accepts, too, or else `json`. -/
inductive Chosen (t : Formats) (accept : String) : String → Prop where
  | accepted {before after : List Format} {f : Format}
      (entries : t.entries = before ++ f :: after) (earlier : ∀ g ∈ before, ¬Accepted accept g)
      (accepted : Accepted accept f) (serves : t.Serves accept f.name) : Chosen t accept f.name
  | fallback (none : ∀ f ∈ t.entries, ¬Accepted accept f) : Chosen t accept "json"

theorem chosen_negotiate (h : t.names.Nodup) (accept : String) :
    t.Chosen accept (t.negotiate accept none) := by
  cases hfind : t.entries.find? (Accepted accept ·) with
  | some f =>
    obtain ⟨haccepted, before, after, hentries, hbefore⟩ := List.find?_eq_some_iff_append.mp hfind
    have hserves : t.Serves accept f.name :=
      (serves_iff hfind).mpr (named?_of_nodup h (List.mem_of_find?_eq_some hfind))
    rw [negotiate_eq hfind]
    refine .accepted hentries (fun g hg => ?_) (of_decide_eq_true haccepted) hserves
    simpa using hbefore g hg
  | none =>
    have hnegotiate : t.negotiate accept none = "json" := by
      simp [negotiate, hfind, Formats.fallback]
    rw [hnegotiate]
    exact .fallback (by simpa using hfind)

/-- However formats are added to a table that has each name once: it has each name once, in the
order in which they first came, with the media type that came last; and a format that is chosen for
a client is found by its name as one that the client accepts. -/
theorem insertions_keep_table (h : t.names.Nodup) (fs : List Format) :
    (fs.foldl insert t).names.Nodup ∧
    (fs.foldl insert t).names = t.names ++ ((fs.map (·.name)).removeAll t.names).eraseDups ∧
    (∀ name, (fs.foldl insert t).mime? name =
      ((fs.filterMap (mimeOf? name)).getLast?).or (t.mime? name)) ∧
    (∀ name, (fs.foldl insert t).contains name = true ↔
      t.contains name = true ∨ ∃ f ∈ fs, f.name = name) ∧
    ∀ accept, (fs.foldl insert t).Chosen accept ((fs.foldl insert t).negotiate accept none) := by
  refine ⟨nodup_names_foldl_insert h fs, names_foldl_insert t fs, mime?_foldl_insert t fs,
    fun name => ?_, chosen_negotiate (nodup_names_foldl_insert h fs)⟩
  rw [contains_iff, contains_iff, names_foldl_insert]
  by_cases hname : name ∈ t.names <;> simp [List.removeAll, hname]

/-- A format is added to the default ones, and the media type of one of these is replaced. -/
theorem insertions_keep_defaults :
    let fs : List Format := [⟨"csv", "text/csv"⟩, ⟨"json", "application/vnd.api+json"⟩]
    defaults.names.Nodup ∧ (fs.foldl insert defaults).names = ["json", "xml", "csv"] ∧
      (fs.foldl insert defaults).mime? "json" = some "application/vnd.api+json" ∧
      (fs.foldl insert defaults).Chosen "text/csv" "csv" := by
  intro fs
  have hdefaults : defaults.names.Nodup := by decide
  obtain ⟨-, hnames, hmime, -, hchosen⟩ := insertions_keep_table hdefaults fs
  have hcsv : (fs.foldl insert defaults).negotiate "text/csv" none = "csv" := by decide +kernel
  refine ⟨hdefaults, hnames.trans (by decide +kernel), (hmime "json").trans (by decide +kernel), ?_⟩
  exact hcsv ▸ hchosen "text/csv"

end PathRoute.Formats
