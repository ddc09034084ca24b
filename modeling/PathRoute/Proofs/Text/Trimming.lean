import Mathlib.Data.List.DropRight
import PathRoute.Text.Character

/-!
# Trimmed text

A trimmed text neither begins nor ends with a blank character, and one that does neither is left as
it is. To trim a text and to write it in capitals may be done in either order.
-/

namespace PathRoute

variable {cs : List Char}

/-! ## Blank ends -/

/-- No blank character stands at either end. -/
def Trimmed (cs : List Char) : Prop :=
  (∀ c ∈ cs.head?, isBlank c = false) ∧ ∀ c ∈ cs.getLast?, isBlank c = false

theorem trimChars_eq (cs : List Char) :
    trimChars cs = (cs.dropWhile isBlank).rdropWhile isBlank := rfl

theorem trimChars_sublist (cs : List Char) : (trimChars cs).Sublist cs :=
  (List.rdropWhile_prefix isBlank _).sublist.trans (List.dropWhile_suffix isBlank).sublist

theorem trimmed_trimChars (cs : List Char) : Trimmed (trimChars cs) := by
  rw [trimChars_eq]
  refine ⟨fun c hc => ?_, fun c hc => ?_⟩
  · -- what is cut off at the end leaves the first character, if any is left
    obtain ⟨after, hafter⟩ := List.rdropWhile_prefix isBlank (cs.dropWhile isBlank)
    have hnot := List.head?_dropWhile_not isBlank cs
    rw [← hafter, List.head?_append, Option.mem_def.mp hc] at hnot
    simpa using hnot
  · have hne : (cs.dropWhile isBlank).rdropWhile isBlank ≠ [] := by
      rintro hnil
      rw [hnil] at hc
      cases hc
    have hlast := List.rdropWhile_last_not isBlank (cs.dropWhile isBlank) hne
    rw [List.getLast?_eq_some_getLast hne] at hc
    cases hc
    simpa using hlast

theorem trimChars_eq_self (h : Trimmed cs) : trimChars cs = cs := by
  obtain ⟨hfront, hback⟩ := h
  have hdrop : cs.dropWhile isBlank = cs := by
    cases cs with
    | nil => rfl
    | cons c cs => exact List.dropWhile_cons_of_neg (by simp [hfront c rfl])
  rw [trimChars_eq, hdrop]
  refine List.rdropWhile_eq_self_iff.mpr fun hne => ?_
  simpa using hback _ (List.getLast?_eq_some_getLast hne)

theorem trim_trim (s : String) : trim (trim s) = trim s := by
  rw [trim, trim, String.toList_ofList, trimChars_eq_self (trimmed_trimChars _)]

/-! ## Capitals -/

theorem toNat_toUpper (c : Char) :
    c.toUpper.toNat = if 97 ≤ c.toNat ∧ c.toNat ≤ 122 then c.toNat - 32 else c.toNat := by
  by_cases h : 97 ≤ c.toNat ∧ c.toNat ≤ 122
  · have hlower : 'a'.val ≤ c.val ∧ c.val ≤ 'z'.val := h
    have hshift : ('A'.val - 'a'.val).toNat = 4294967264 := by decide
    have hupper : c.toUpper.val = c.val + ('A'.val - 'a'.val) := by
      delta Char.toUpper
      rw [dif_pos hlower]
    rw [if_pos h, Char.toNat, hupper, UInt32.toNat_add, hshift]
    change (c.toNat + _) % _ = _
    omega
  · have hother : ¬('a'.val ≤ c.val ∧ c.val ≤ 'z'.val) := h
    have hupper : c.toUpper = c := by
      delta Char.toUpper
      rw [dif_neg hother]
    rw [if_neg h, hupper]

@[simp] theorem toUpper_toUpper (s : String) : s.toUpper.toUpper = s.toUpper := by
  have hchar : Char.toUpper ∘ Char.toUpper = Char.toUpper := by
    funext c
    apply Char.toNat_inj.mp
    rw [Function.comp_apply, toNat_toUpper c.toUpper, toNat_toUpper c]
    grind
  apply String.toList_inj.mp
  simp only [String.toUpper, String.toList_map, List.map_map, hchar]

/-- No blank character is among the ASCII letters. -/
theorem isBlank_eq_false_of_le {c : Char} (h : 65 ≤ c.toNat ∧ c.toNat ≤ 122) :
    isBlank c = false := by
  simp only [isBlank, CodeRanges.contains, CodeRanges.holds, Property.Ranges.whiteSpace,
    List.any_cons, List.any_nil, Bool.or_false, Bool.or_eq_false_iff, Bool.and_eq_false_imp,
    decide_eq_true_eq, decide_eq_false_iff_not, not_le]
  omega

theorem isBlank_toUpper (c : Char) : isBlank c.toUpper = isBlank c := by
  have h := toNat_toUpper c
  split at h
  · rw [isBlank_eq_false_of_le (by omega), isBlank_eq_false_of_le (by omega)]
  · rw [Char.toNat_inj.mp h]

theorem trimChars_map {f : Char → Char} (hf : ∀ c, isBlank (f c) = isBlank c) (cs : List Char) :
    trimChars (cs.map f) = (trimChars cs).map f := by
  have hcomp : isBlank ∘ f = isBlank := funext hf
  rw [trimChars, List.dropWhile_map, hcomp, ← List.map_reverse, List.dropWhile_map, hcomp,
    ← List.map_reverse, trimChars]

theorem trim_toUpper (s : String) : trim s.toUpper = (trim s).toUpper := by
  apply String.toList_inj.mp
  simp only [trim, String.toUpper, String.toList_map, String.toList_ofList]
  exact trimChars_map isBlank_toUpper s.toList

/-- Capitals make no difference to whether a text is trimmed. -/
theorem toUpper_eq_toUpper_trim_iff {s : String} :
    s.toUpper = (trim s).toUpper ↔ trim s = s := by
  refine ⟨fun h => ?_, fun h => by rw [h]⟩
  have hlength := congrArg (fun t : String => t.toList.length) h
  simp only [trim, String.toUpper, String.toList_map, String.toList_ofList,
    List.length_map] at hlength
  rw [trim, (trimChars_sublist s.toList).eq_of_length hlength.symm, String.ofList_toList]

end PathRoute
