import PathRoute.Proofs.Pattern.Expression
import PathRoute.Proofs.Template.Stripping

/-!
# The structure of a compiled template

What the capturing groups of a compiled template stand for, and which of its placeholders are
required, is told by the written template alone: by its marks, and by what is left when its groups
are stripped. The rules for the placeholders have no part in it.
-/

namespace PathRoute.Pattern

open Template

variable {path : String} {ps : Placeholders} {p : Pattern}

theorem plain_of_compile (h : compile path ps = .ok p) (hnamed : Token.AllNamed path.toList) :
    p.template.Plain := by
  have hparsed := parsed_of_parse (compiled_of_compile h).parse_path
  exact plain_of_wellFormed hparsed.wellFormed (hparsed.not_mem_literals hnamed)

/-- However the stripping of a written template has begun, it can be ended, and then its required
placeholders are left. -/
theorem names_of_stripped_path (h : compile path ps = .ok p) (hnamed : Token.AllNamed path.toList)
    {cs : List Char} (hrun : Relation.ReflTransGen Strip path.toList cs) :
    (∃ ds, Stripped cs ds) ∧ ∀ ds, Stripped cs ds → Token.names ds = p.required := by
  have hplain := plain_of_compile h hnamed
  have hc := compiled_of_compile h
  rw [← (parsed_of_parse hc.parse_path).print_eq] at hrun
  refine ⟨((balanced_print hplain).of_strips hrun).exists_stripped, fun ds hds => ?_⟩
  rw [hc.required_eq]
  exact names_of_stripped hplain ⟨hrun.trans hds.1, hds.2⟩

/-- A compiled template is laid out as its text shows: the groups and the tokens in their order, the
tokens outside all brackets required, whatever the rules are. -/
theorem structure_of_compile (h : compile path ps = .ok p) :
    p.captureOrder = (Token.marks 0 path.toList).map Prod.snd ∧
    (p.captureOrder.filterMap id).Nodup ∧
    p.required = namesAt 0 (Token.marks 0 path.toList) ∧
    (∀ ps' p', compile path ps' = .ok p' → p'.template = p.template ∧
      p'.captureOrder = p.captureOrder ∧ p'.required = p.required) ∧
    (Token.AllNamed path.toList → ∀ cs, Relation.ReflTransGen Strip path.toList cs →
      (∃ ds, Stripped cs ds) ∧ ∀ ds, Stripped cs ds → Token.names ds = p.required) := by
  have hc := compiled_of_compile h
  have hparse := hc.parse_path
  refine ⟨?_, ?_, ?_, fun ps' p' h' => ?_, fun hnamed cs => names_of_stripped_path h hnamed⟩
  · rw [marks_of_parse hparse, map_snd_marks, hc.captureOrder_eq]
  · rw [hc.captureOrder_eq, ← names_eq]
    exact (parsed_of_parse hparse).names_nodup
  · rw [marks_of_parse hparse, namesAt_marks, hc.required_eq]
  · have hc' := compiled_of_compile h'
    have htemplate : p'.template = p.template :=
      Except.ok.inj (hc'.parse_path.symm.trans hparse)
    rw [hc.captureOrder_eq, hc'.captureOrder_eq, hc.required_eq, hc'.required_eq, htemplate]
    exact ⟨rfl, rfl, rfl⟩

theorem structure_of_dates : ∃ p, compile "/<year>[/<month>[/<day>]]" ∅ = .ok p ∧
    p.captureOrder = [some "year", none, some "month", none, some "day"] ∧
    ∀ ds, Stripped "/<year>[/<month>[/<day>]]".toList ds → Token.names ds = ["year"] := by
  have : ∃ p, compile "/<year>[/<month>[/<day>]]" ∅ = .ok p ∧
      p.captureOrder = [some "year", none, some "month", none, some "day"] ∧
      p.required = ["year"] := by
    decide +kernel
  obtain ⟨p, hp, horder, hrequired⟩ := this
  obtain ⟨-, -, -, -, hstripped⟩ := structure_of_compile hp
  refine ⟨p, hp, horder, fun ds hds => ?_⟩
  rw [← hrequired]
  exact (hstripped (by decide +kernel) _ .refl).2 ds hds

/-- Where an angle bracket begins no token, stripping may put one together. -/
example : (∃ p, compile "/<a[/b]c>" ∅ = .ok p ∧ p.required = []) ∧
    ∃ ds, Stripped "/<a[/b]c>".toList ds ∧ Token.names ds = ["ac"] := by
  refine ⟨by decide +kernel, "/<ac>".toList, ⟨.single ?_, ?_⟩, ?_⟩
  · exact @Strip.group "/<a".toList "/b".toList "c>".toList (by decide) (by decide)
  · decide
  · decide +kernel

end PathRoute.Pattern
