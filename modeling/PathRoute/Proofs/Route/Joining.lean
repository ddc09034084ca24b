import PathRoute.Proofs.Route.Rewriting
import PathRoute.Proofs.Template.Leading

/-!
# Paths behind a base

A base ends in a slash, and a route leaves the slashes at the front of its path to it. These are the
slashes of the first literal only: where a group comes first, or nothing but groups stands between
two slashes, a built URL can have a second slash behind its base.
-/

namespace PathRoute.Route

open Template

variable {r : Route} {ps : Parameters} {handler : Option String} {action base rest : String}
  {cs : List Char}

theorem head_append_queryText (cs : List Char) (pairs : List (String × String)) :
    (cs ++ queryText pairs).head? = some '/' ↔ cs.head? = some '/' := by
  cases cs with
  | nil =>
    rw [queryText]
    split <;> simp
  | cons c cs => rfl

/-- Behind its base a built URL begins as the path does. -/
theorem exists_fill_of_build_append (h : r.build? handler action ps base = some (base ++ rest)) :
    ∃ cs, r.pattern.template.trimSlashes.fill ps = some cs ∧
      (rest.toList.head? = some '/' ↔ cs.head? = some '/') := by
  obtain ⟨⟨hhandler, haction⟩, -⟩ := build?_eq_some_iff.mp h
  rw [build?_eq hhandler haction] at h
  obtain ⟨cs, hcs, heq⟩ := Option.map_eq_some_iff.mp h
  refine ⟨cs, hcs, ?_⟩
  rw [← String.append_right_inj base |>.mp heq, String.toList_ofList, head_append_queryText]

/-- No URL of a route has a second slash behind its base, whatever values are given that are not
empty and do not begin with one, just if the template has no slash that may come first behind those
that it leaves to the base. -/
theorem joined_without_slash_iff (ha : r.actions.verbs ≠ []) :
    (∀ handler action ps base rest, Unslashed ps → base.toList.getLast? = some '/' →
      r.build? handler action ps base = some (base ++ rest) → rest.toList.head? ≠ some '/') ↔
      r.pattern.template.trimSlashes.slashMayLead = false := by
  have hn : r.pattern.template.trimSlashes.names.Nodup := by
    rw [names_trimSlashes]
    exact r.parsed.names_nodup
  rw [← Bool.not_eq_true, slashMayLead_iff hn]
  constructor
  · rintro hall ⟨ps, cs, hps, hcs⟩
    obtain ⟨v, hv⟩ := List.exists_mem_of_ne_nil _ ha
    obtain ⟨action, haction⟩ := Option.isSome_iff_exists.mp (Actions.mem_verbs.mp hv)
    have hbuild : r.build? r.handler action ps "/" = _ :=
      build?_eq rfl (Actions.contains_iff.mpr ⟨v, haction⟩)
    rw [hcs] at hbuild
    refine hall _ _ ps _ _ hps (by decide) hbuild ?_
    rw [String.toList_ofList, head_append_queryText]
    rfl
  · intro hnone handler action ps base rest hps _ hbuild hslash
    obtain ⟨cs, hcs, hhead⟩ := exists_fill_of_build_append hbuild
    obtain ⟨cs, rfl⟩ := List.head?_eq_some_iff.mp (hhead.mp hslash)
    exact hnone ⟨ps, cs, hps, hcs⟩

/-- So for a group behind the first placeholder, on every base. -/
theorem joined_without_slash_articles : ∃ r, ofSettings "/articles/<id>[/<slug>]" [] = .ok r ∧
    ∀ handler action ps base rest, Unslashed ps → base.toList.getLast? = some '/' →
      r.build? handler action ps base = some (base ++ rest) → rest.toList.head? ≠ some '/' := by
  obtain ⟨r, hr, -, hactions, -, -, ht⟩ := exists_articles
  refine ⟨r, hr, (joined_without_slash_iff ?_).mpr ?_⟩
  · rw [hactions]
    decide
  · rw [ht]
    decide +kernel

/-- A group at the front brings a second slash along where it is kept, and leaves the one behind it
where it is dropped. -/
theorem joined_with_slash_of_group : ∃ r, ofSettings "[/<lang>]/users" [] = .ok r ∧
    (Unslashed {("lang", some "en")} ∧ r.build? none "read" {("lang", some "en")}
      "https://api.example.com/" = some ("https://api.example.com/" ++ "/en/users")) ∧
    (Unslashed ∅ ∧ r.build? none "read" ∅
      "https://api.example.com/" = some ("https://api.example.com/" ++ "/users")) := by
  have hlang : Unslashed {("lang", some "en")} := by
    intro name value hvalue
    obtain ⟨-, rfl⟩ : "lang" = name ∧ "en" = value := by
      simpa [Std.ExtTreeMap.getElem?_insert] using hvalue
    decide
  have hempty : Unslashed ∅ := fun name value hvalue => by simp at hvalue
  have hbuild : ∃ r, ofSettings "[/<lang>]/users" [] = .ok r ∧
      r.build? none "read" {("lang", some "en")} "https://api.example.com/" =
        some ("https://api.example.com/" ++ "/en/users") ∧
      r.build? none "read" ∅ "https://api.example.com/" =
        some ("https://api.example.com/" ++ "/users") := by
    decide +kernel
  obtain ⟨r, hr, hkept, hdropped⟩ := hbuild
  exact ⟨r, hr, ⟨hlang, hkept⟩, hempty, hdropped⟩

end PathRoute.Route
