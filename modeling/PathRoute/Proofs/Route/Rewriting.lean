import PathRoute.Proofs.Route.Building
import PathRoute.Proofs.Route.Matching
import PathRoute.Proofs.Template.Collapsing
import PathRoute.Proofs.Template.Filling

/-!
# Building URLs by rewriting text

The description of how a URL is built speaks of the written template only: values are put in place
of their tokens, groups are taken away or lose their brackets, innermost first, and what is left is
the path, unless a token is left in it. What a route builds from its template is what this
procedure gives, in whatever order it takes the groups.
-/

namespace PathRoute

namespace Template

variable {t : Template} {ps : Parameters}

/-! ## Slashes at the front -/

/-- The template without the slashes at its front. -/
def trimSlashes : Template → Template
  | .literal text rest => .literal (.ofList (text.toList.dropWhile (· == '/'))) rest
  | t => t

theorem print_trimSlashes (h : t.WellFormed) :
    t.trimSlashes.print = t.print.dropWhile (· == '/') := by
  cases t with
  | literal text rest =>
    obtain ⟨-, hrest, -⟩ := h
    have hstop : rest.print.dropWhile (· == '/') = rest.print := by
      have hsplit := List.takeWhile_append_dropWhile (p := (· == '/')) (l := rest.print)
      rwa [takeWhile_print hrest, List.nil_append] at hsplit
    rw [trimSlashes, print, print, String.toList_ofList, List.dropWhile_append]
    split
    · rename_i hnil
      rw [hstop, List.isEmpty_iff.mp hnil, List.nil_append]
    · rfl
  | nil | placeholder | optional => simp [trimSlashes, print]

theorem fill_trimSlashes (t : Template) (ps : Parameters) :
    t.trimSlashes.fill ps = (t.fill ps).map (·.drop t.leadingSlashes) := by
  cases t with
  | literal text rest =>
    have hdrop : text.toList.dropWhile (· == '/') =
        text.toList.drop (literal text rest).leadingSlashes := by
      have hsplit := List.takeWhile_append_dropWhile (p := (· == '/')) (l := text.toList)
      conv => rhs; rw [← hsplit]
      rw [List.drop_left']
      rfl
    have hle : (literal text rest).leadingSlashes ≤ text.toList.length :=
      (List.takeWhile_prefix _).length_le
    simp only [trimSlashes, fill, String.toList_ofList, Option.map_map, hdrop]
    congr 1
    funext cs
    exact (List.drop_append_of_le_length hle).symm
  | nil | placeholder | optional => simp [trimSlashes, leadingSlashes]

theorem names_trimSlashes (t : Template) : t.trimSlashes.names = t.names := by
  cases t <;> rfl

theorem plain_trimSlashes (h : t.Plain) : t.trimSlashes.Plain := by
  cases t with
  | literal text rest =>
    obtain ⟨⟨hangle, hopen, hclose⟩, hrest⟩ := h
    have hsub := List.dropWhile_subset (l := text.toList) (· == '/')
    refine ⟨?_, hrest⟩
    rw [String.toList_ofList]
    exact ⟨fun h => hangle (hsub h), fun h => hopen (hsub h), fun h => hclose (hsub h)⟩
  | nil | placeholder | optional => exact h

end Template

namespace Route

open Template

/-- The text of the route's path from its leading slashes on, with the values of parameters in
place of their tokens; and the parameters whose tokens do not occur in it. -/
def substituted (r : Route) (ps : Parameters) : List Char × List (String × String) :=
  substitute ps.toList (r.path.toList.dropWhile (· == '/'))

/-- What may come of building a URL by rewriting text. -/
inductive Rewritten (r : Route) (handler : Option String) (action : String) (ps : Parameters)
    (base : String) : Option String → Prop where
  /-- The handler is another one, or has no such action. -/
  | refused : ¬(r.handler = handler ∧ r.actions.contains action = true) →
      Rewritten r handler action ps base none
  /-- A token is left when no group can be collapsed any more. -/
  | unresolved {cs : List Char} : r.handler = handler → r.actions.contains action = true →
      Relation.ReflTransGen Collapse (r.substituted ps).1 cs → Settled cs → hasToken cs = true →
      Rewritten r handler action ps base none
  | built {cs : List Char} : r.handler = handler → r.actions.contains action = true →
      Relation.ReflTransGen Collapse (r.substituted ps).1 cs → Settled cs → hasToken cs = false →
      Rewritten r handler action ps base (some (base ++ .ofList
        (cs ++ queryText ((r.substituted ps).2.filter fun pair => pair.1 ≠ actionKey))))

variable {r : Route} {ps : Parameters} {handler : Option String} {action base : String}

theorem build?_of_not (h : ¬(r.handler = handler ∧ r.actions.contains action = true)) :
    r.build? handler action ps base = none := by
  rw [Option.eq_none_iff_forall_ne_some]
  intro url hurl
  exact h (build?_eq_some_iff.mp hurl).1

/-- What is built of the path without its leading slashes. -/
theorem build?_eq (h : r.handler = handler) (ha : r.actions.contains action = true) :
    r.build? handler action ps base = (r.pattern.template.trimSlashes.fill ps).map fun cs =>
      base ++ .ofList (cs ++ queryText (leftovers r.pattern.template ps)) := by
  refine Option.ext fun url => ?_
  rw [build?_eq_some_iff, fill_trimSlashes, Option.map_map, Option.map_eq_some_iff]
  constructor
  · rintro ⟨-, cs, hfill, rfl⟩
    exact ⟨cs, hfill, rfl⟩
  · rintro ⟨cs, hfill, rfl⟩
    exact ⟨⟨h, ha⟩, cs, hfill, rfl⟩

/-- The template that is left of a route's when the parameters were supplied. -/
def supplied (r : Route) (ps : Parameters) : Template :=
  r.pattern.template.trimSlashes.supply fun name => (ps[name]?).join

/-- The text procedure puts the values in as they are supplied to the template, and keeps the
parameters that are left over for the query. -/
theorem substituted_eq (ht : r.pattern.template.Plain)
    (hnames : ∀ name ∈ ps, IsUnbracketed name)
    (hvalues : ∀ name value : String, ps[name]? = some (some value) → IsPlain value.toList) :
    (r.substituted ps).1 = (r.supplied ps).print ∧
      ((r.substituted ps).2.filter fun pair => pair.1 ≠ actionKey) =
        leftovers r.pattern.template ps := by
  have hprint : r.path.toList.dropWhile (· == '/') = r.pattern.template.trimSlashes.print := by
    rw [print_trimSlashes r.parsed.wellFormed, r.parsed.print_eq]
  have hgives : Gives (fun name => (ps[name]?).join) ps.toList := by
    intro name value
    rw [Option.join_eq_some_iff, Std.ExtTreeMap.mem_toList_iff_getElem?_eq_some]
  have hkeys : ps.toList.Pairwise fun a b => a.1 ≠ b.1 := by
    refine ps.distinct_keys_toList.imp fun hne heq => hne ?_
    rw [heq, Std.compare_self]
  have hlookup : ∀ {name value}, (name, value) ∈ ps.toList → ps[name]? = some value :=
    Std.ExtTreeMap.mem_toList_iff_getElem?_eq_some.mp
  have hsubstitute := substitute_print (plain_trimSlashes ht) hkeys
    (fun p hp => hnames p.1 (Std.ExtTreeMap.mem_iff_isSome_getElem?.mpr (by rw [hlookup hp]; rfl)))
    (fun name value hp => hvalues name value (hlookup hp)) hgives
  rw [substituted, hprint, hsubstitute]
  refine ⟨rfl, ?_⟩
  rw [names_trimSlashes, List.filter_filterMap, leftovers]
  refine List.filterMap_congr fun p _ => ?_
  obtain ⟨name, value⟩ := p
  dsimp only
  by_cases hname : name ∈ r.pattern.template.names
  · rw [if_pos hname, if_pos (.inr hname)]
    rfl
  · rw [if_neg hname]
    by_cases haction : name = actionKey
    · rw [if_pos (.inl haction)]
      cases value <;> simp [haction]
    · rw [if_neg (not_or.mpr ⟨haction, hname⟩)]
      cases value <;> simp [haction]

/-- Building a URL from the template and by rewriting text come to the same, and what is cut off
the filled template are slashes at its front. -/
theorem rewritten_iff_build (hpath : Token.AllNamed r.path.toList)
    (hnames : ∀ name ∈ ps, IsUnbracketed name)
    (hvalues : ∀ name value : String, ps[name]? = some (some value) → IsPlain value.toList)
    (handler : Option String) (action base : String) :
    (∀ out, r.Rewritten handler action ps base out ↔ r.build? handler action ps base = out) ∧
      ∀ cs, r.pattern.template.fill ps = some cs →
        List.replicate r.pattern.template.leadingSlashes '/' <+: cs ∧
          r.pattern.template.leadingSlashes ≤ cs.length := by
  have ht := plain_of_wellFormed r.parsed.wellFormed (r.parsed.not_mem_literals hpath)
  obtain ⟨htext, hleft⟩ := substituted_eq ht hnames hvalues
  have hplain : (r.supplied ps).Plain :=
    (plain_trimSlashes ht).supply fun name value hv =>
      hvalues name value (Option.join_eq_some_iff.mp hv)
  have hfill : r.pattern.template.trimSlashes.fill ps =
      if (r.supplied ps).required = [] then some (r.supplied ps).residue else none :=
    fill_eq_residue ps _
  -- whatever is left of the groups' text in the end is the residue
  have hresidue : ∀ {cs}, Relation.ReflTransGen Collapse (r.substituted ps).1 cs → Settled cs →
      cs = (r.supplied ps).residue := by
    intro cs hrun hsettled
    rw [htext] at hrun
    exact eq_residue_of_settled hplain hrun hsettled
  have htoken := hasToken_residue hplain
  refine ⟨fun out => ⟨fun h => ?_, ?_⟩, fun cs hcs => ?_⟩
  · cases h with
    | refused hnot => exact build?_of_not hnot
    | unresolved hhandler haction hrun hsettled hcs =>
      rw [hresidue hrun hsettled, htoken] at hcs
      rw [build?_eq hhandler haction, hfill, if_neg (by simpa using hcs)]
      rfl
    | built hhandler haction hrun hsettled hcs =>
      rw [hresidue hrun hsettled, htoken] at hcs
      rw [build?_eq hhandler haction, hfill, if_pos (by simpa using hcs), hleft,
        hresidue hrun hsettled]
      rfl
  · rintro rfl
    by_cases hguard : r.handler = handler ∧ r.actions.contains action = true
    · obtain ⟨cs, hrun, hsettled⟩ := exists_settled (r.substituted ps).1
      obtain ⟨hhandler, haction⟩ := hguard
      have hcs := hresidue hrun hsettled
      rw [build?_eq hhandler haction, hfill]
      split
      · rename_i hnone
        rw [← hcs, ← hleft]
        exact .built hhandler haction hrun hsettled (by rw [hcs, htoken, hnone]; rfl)
      · rename_i hsome
        exact .unresolved hhandler haction hrun hsettled (by rw [hcs, htoken]; simpa using hsome)
    · rw [build?_of_not hguard]
      exact .refused hguard
  · have hfront := prefix_of_fill hcs
    exact ⟨hfront, by simpa using hfront.length_le⟩

/-- So for a value in the path, a group that is taken away, and a value in the query. -/
theorem rewritten_articles : ∃ r, ofSettings "/articles/<id>[/<slug>]" [] = .ok r ∧
    r.Rewritten r.handler "read" {("id", some "7"), ("page", some "a b"), ("slug", none)} "/"
      (some "/articles/7?page=a+b") := by
  obtain ⟨r, hr, hpath, hactions, -, -, ht⟩ := exists_articles
  let ps : Parameters := {("id", some "7"), ("page", some "a b"), ("slug", none)}
  have hnamed : Token.AllNamed r.path.toList := by
    rw [hpath]
    decide +kernel
  have hnames : ∀ name ∈ ps, IsUnbracketed name := by
    have hall : ∀ name ∈ ps.keys, IsUnbracketed name := by decide +kernel
    exact fun name hname => hall name (Std.ExtTreeMap.mem_keys.mpr hname)
  have hvalues : ∀ name value : String, ps[name]? = some (some value) → IsPlain value.toList := by
    have hall : ∀ p ∈ ps.toList, ∀ value ∈ p.2, IsPlain value.toList := by decide +kernel
    exact fun name value h =>
      hall _ (Std.ExtTreeMap.mem_toList_iff_getElem?_eq_some.mpr h) value rfl
  refine ⟨r, hr, ((rewritten_iff_build hnamed hnames hvalues _ _ _).1 _).mpr ?_⟩
  rw [build?_eq_some_iff, ht, hactions]
  refine ⟨⟨rfl, ?_⟩, "/articles/7".toList, ?_, ?_⟩ <;> decide +kernel

end Route

end PathRoute
