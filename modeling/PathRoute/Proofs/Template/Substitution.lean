import Mathlib.Data.List.Basic
import PathRoute.Proofs.Template.Parsing
import PathRoute.Route.Build

/-!
# Substitution in the text of a template

Values are put into the text of a template by replacing the tokens of their names. What results is
the text of the template in which these placeholders have become literals.
-/

namespace PathRoute.Template

/-! ## Texts -/

/-- A name as it stands in the text of a template. -/
def token (name : String) : List Char := (Token.placeholder name.toList).print

/-- Whether one text stands somewhere in the other. -/
def occurs (old : List Char) : List Char → Bool
  | [] => false
  | c :: cs => old.isPrefixOf (c :: cs) || occurs old cs

/-- A text with every occurrence of `old` replaced, from left to right. -/
def replaceAll (old new : List Char) : List Char → List Char
  | [] => []
  | c :: cs =>
    if old.isPrefixOf (c :: cs) then new ++ replaceAll old new (cs.drop (old.length - 1))
    else c :: replaceAll old new cs
termination_by cs => cs.length
decreasing_by all_goals simp; try omega

/-- A text with the values of parameters in place of their tokens, one parameter after the other,
and the parameters with a value whose token does not occur. -/
def substitute : List (String × Option String) → List Char → List Char × List (String × String)
  | [], cs => (cs, [])
  | (_, none) :: ps, cs => substitute ps cs
  | (name, some value) :: ps, cs =>
    if occurs (token name) cs then substitute ps (replaceAll (token name) value.toList cs)
    else ((substitute ps cs).1, (name, value) :: (substitute ps cs).2)

/-- The text stands for itself: it begins no token and no group and ends none. -/
def IsPlain (cs : List Char) : Prop := '<' ∉ cs ∧ '[' ∉ cs ∧ ']' ∉ cs

/-- The text may stand between angle brackets. -/
def IsUnbracketed (name : String) : Prop := '<' ∉ name.toList ∧ '>' ∉ name.toList

instance : DecidablePred IsPlain := fun _ => inferInstanceAs (Decidable (_ ∧ _))

instance : DecidablePred IsUnbracketed := fun _ => inferInstanceAs (Decidable (_ ∧ _))

section Texts

variable {name other : String} {cs ds new : List Char}

theorem isPrefixOf_cons_of_ne {c : Char} (h : c ≠ '<') :
    (token name).isPrefixOf (c :: cs) = false := by
  simp [token, Token.print, List.isPrefixOf, h.symm]

theorem occurs_append (h : '<' ∉ ds) : occurs (token name) (ds ++ cs) = occurs (token name) cs := by
  induction ds with
  | nil => rfl
  | cons d ds ih =>
    rw [List.mem_cons, not_or] at h
    rw [List.cons_append, occurs, isPrefixOf_cons_of_ne (Ne.symm h.1), Bool.false_or, ih h.2]

theorem replaceAll_append (h : '<' ∉ ds) :
    replaceAll (token name) new (ds ++ cs) = ds ++ replaceAll (token name) new cs := by
  induction ds with
  | nil => rfl
  | cons d ds ih =>
    rw [List.mem_cons, not_or] at h
    rw [List.cons_append, replaceAll, isPrefixOf_cons_of_ne (Ne.symm h.1), ih h.2]
    rfl

/-- One token stands in front of another one only if they are the same. -/
theorem isPrefixOf_token (hn : IsUnbracketed name) (ho : '>' ∉ other.toList) :
    (token name).isPrefixOf (token other ++ cs) = decide (name = other) := by
  rw [Bool.eq_iff_iff, List.isPrefixOf_iff_prefix, decide_eq_true_eq]
  constructor
  · rintro ⟨ds, h⟩
    have heq : name.toList ++ '>' :: ds = other.toList ++ '>' :: cs := by
      simpa [token, Token.print] using h
    have htake : ∀ {xs ys : List Char}, '>' ∉ xs → (xs ++ '>' :: ys).takeWhile (· != '>') = xs := by
      intro xs ys hxs
      rw [List.takeWhile_append_of_pos, List.takeWhile_cons_of_neg (by simp), List.append_nil]
      intro c hc
      rw [bne_iff_ne]
      rintro rfl
      exact hxs hc
    rw [← String.toList_inj, ← htake hn.2, heq, htake ho]
  · rintro rfl
    exact List.prefix_append _ _

theorem occurs_token (hn : IsUnbracketed name) (ho : IsUnbracketed other) :
    occurs (token name) (token other ++ cs) =
      (decide (name = other) || occurs (token name) cs) := by
  have htail : '<' ∉ other.toList ++ ['>'] := by simpa using ho.1
  have hcons : token other ++ cs = '<' :: ((other.toList ++ ['>']) ++ cs) := rfl
  rw [hcons, occurs, ← hcons, isPrefixOf_token hn ho.2, occurs_append htail]

theorem replaceAll_token (hn : IsUnbracketed name) (ho : IsUnbracketed other) :
    replaceAll (token name) new (token other ++ cs) =
      (if name = other then new else token other) ++ replaceAll (token name) new cs := by
  have htail : '<' ∉ other.toList ++ ['>'] := by simpa using ho.1
  have hcons : token other ++ cs = '<' :: ((other.toList ++ ['>']) ++ cs) := rfl
  rw [hcons, replaceAll, ← hcons, isPrefixOf_token hn ho.2]
  by_cases h : name = other
  · have hdrop : ((other.toList ++ ['>']) ++ cs).drop ((token name).length - 1) = cs := by
      rw [h, List.drop_left']
      simp [token, Token.print]
    rw [if_pos (decide_eq_true h), if_pos h, hdrop]
  · rw [if_neg (by simpa using h), if_neg h, replaceAll_append htail]
    rfl

end Texts

/-! ## Templates -/

/-- The literals stand for themselves, and the names are names. -/
def Plain : Template → Prop
  | .nil => True
  | .literal text rest => IsPlain text.toList ∧ rest.Plain
  | .placeholder name rest => IsName name.toList ∧ rest.Plain
  | .optional inner rest => inner.Plain ∧ rest.Plain

/-- The template in which the placeholders with a value are literals. -/
def supply (f : String → Option String) : Template → Template
  | .nil => .nil
  | .literal text rest => .literal text (rest.supply f)
  | .placeholder name rest =>
    match f name with
    | some value => .literal value (rest.supply f)
    | none => .placeholder name (rest.supply f)
  | .optional inner rest => .optional (inner.supply f) (rest.supply f)

/-- The value of one name only. -/
def single (name value : String) : String → Option String :=
  fun other => if other = name then some value else none

/-- The values of all names but one. -/
def without (name : String) (f : String → Option String) : String → Option String :=
  fun other => if other = name then none else f other

section Templates

variable {t : Template} {f g : String → Option String} {name value : String} {cs : List Char}

theorem plain_of_wellFormed (h : t.WellFormed) (hl : ∀ text ∈ t.literals, '<' ∉ text.toList) :
    t.Plain := by
  induction t with
  | nil => trivial
  | literal text rest ih =>
    exact ⟨⟨hl _ List.mem_cons_self, h.1.2⟩, ih h.2.2 fun s hs => hl s (List.mem_cons_of_mem _ hs)⟩
  | placeholder name rest ih => exact ⟨h.1, ih h.2 hl⟩
  | optional inner rest ihi ihr =>
    exact ⟨ihi h.1 fun s hs => hl s (List.mem_append_left _ hs),
      ihr h.2 fun s hs => hl s (List.mem_append_right _ hs)⟩

theorem IsName.isUnbracketed (h : IsName name.toList) : IsUnbracketed name :=
  ⟨h.not_mem (by simp), h.not_mem (by simp)⟩

theorem IsName.not_mem_token (h : IsName name.toList) : '[' ∉ token name ∧ ']' ∉ token name := by
  have hopen := h.not_mem (c := '[') (by simp)
  have hclose := h.not_mem (c := ']') (by simp)
  simp [token, Token.print, hopen, hclose]

theorem supply_congr (h : ∀ name ∈ t.names, f name = g name) : t.supply f = t.supply g := by
  induction t with
  | nil => rfl
  | literal text rest ih => rw [supply, supply, ih h]
  | placeholder name rest ih =>
    rw [supply, supply, h name List.mem_cons_self,
      ih fun n hn => h n (List.mem_cons_of_mem _ hn)]
  | optional inner rest ihi ihr =>
    rw [supply, supply, ihi fun n hn => h n (List.mem_append_left _ hn),
      ihr fun n hn => h n (List.mem_append_right _ hn)]

theorem supply_none (t : Template) : (t.supply fun _ => none) = t := by
  induction t with
  | nil => rfl
  | literal text rest ih => rw [supply, ih]
  | placeholder name rest ih => rw [supply, ih]
  | optional inner rest ihi ihr => rw [supply, ihi, ihr]

theorem supply_supply (t : Template) :
    (t.supply f).supply g = t.supply fun name => (f name).or (g name) := by
  induction t with
  | nil => rfl
  | literal text rest ih => simp only [supply, ih]
  | placeholder name rest ih => cases hf : f name <;> simp [supply, hf, ih]
  | optional inner rest ihi ihr => simp only [supply, ihi, ihr]

theorem names_supply (t : Template) :
    (t.supply f).names = t.names.filter fun n => (f n).isNone := by
  induction t with
  | nil => rfl
  | literal text rest ih => exact ih
  | placeholder name rest ih => cases hf : f name <;> simp [supply, names, hf, ih]
  | optional inner rest ihi ihr => rw [supply, names, names, List.filter_append, ihi, ihr]

theorem Plain.supply (h : t.Plain) (hf : ∀ name value, f name = some value → IsPlain value.toList) :
    (t.supply f).Plain := by
  induction t with
  | nil => trivial
  | literal text rest ih => exact ⟨h.1, ih h.2⟩
  | placeholder name rest ih =>
    cases hv : f name with
    | none => simpa only [Template.supply, hv] using ⟨h.1, ih h.2⟩
    | some value => simpa only [Template.supply, hv] using ⟨hf name value hv, ih h.2⟩
  | optional inner rest ihi ihr => exact ⟨ihi h.1, ihr h.2⟩

theorem print_placeholder (rest : Template) :
    (placeholder name rest).print = token name ++ rest.print := by
  simp [print, token, Token.print]

theorem print_optional_append (inner rest : Template) (cs : List Char) :
    (optional inner rest).print ++ cs =
      ['['] ++ (inner.print ++ ([']'] ++ (rest.print ++ cs))) := by
  simp [print]

/-- The tokens in the text of a template are those of its names. -/
theorem occurs_print_append (h : t.Plain) (hn : IsUnbracketed name) (cs : List Char) :
    occurs (token name) (t.print ++ cs) = (decide (name ∈ t.names) || occurs (token name) cs) := by
  induction t generalizing cs with
  | nil => rfl
  | literal text rest ih =>
    rw [print, List.append_assoc, occurs_append h.1.1, ih h.2, names]
  | placeholder other rest ih =>
    rw [print_placeholder, List.append_assoc, occurs_token hn h.1.isUnbracketed, ih h.2]
    simp only [names, List.mem_cons, Bool.decide_or, Bool.or_assoc]
  | optional inner rest ihi ihr =>
    rw [print_optional_append, occurs_append (by simp), ihi h.1, occurs_append (by simp), ihr h.2]
    simp only [names, List.mem_append, Bool.decide_or, Bool.or_assoc]

theorem occurs_print (h : t.Plain) (hn : IsUnbracketed name) :
    occurs (token name) t.print = decide (name ∈ t.names) := by
  have happend := occurs_print_append h hn []
  rwa [List.append_nil, occurs, Bool.or_false] at happend

/-- To replace a token in the text of a template is to supply the value. -/
theorem replaceAll_print_append (h : t.Plain) (hn : IsUnbracketed name) (cs : List Char) :
    replaceAll (token name) value.toList (t.print ++ cs) =
      (t.supply (single name value)).print ++ replaceAll (token name) value.toList cs := by
  induction t generalizing cs with
  | nil => rfl
  | literal text rest ih =>
    rw [print, List.append_assoc, replaceAll_append h.1.1, ih h.2, supply, print, List.append_assoc]
  | placeholder other rest ih =>
    rw [print_placeholder, List.append_assoc, replaceAll_token hn h.1.isUnbracketed, ih h.2,
      supply]
    by_cases heq : name = other
    · rw [if_pos heq, single, if_pos heq.symm, print, List.append_assoc]
    · rw [if_neg heq, single, if_neg (Ne.symm heq), print_placeholder, List.append_assoc]
  | optional inner rest ihi ihr =>
    rw [print_optional_append, replaceAll_append (by simp), ihi h.1, replaceAll_append (by simp),
      ihr h.2]
    simp [supply, print]

theorem replaceAll_print (h : t.Plain) (hn : IsUnbracketed name) :
    replaceAll (token name) value.toList t.print = (t.supply (single name value)).print := by
  have happend : replaceAll (token name) value.toList (t.print ++ []) = _ :=
    replaceAll_print_append h hn []
  rwa [List.append_nil, replaceAll, List.append_nil] at happend

theorem without_of_eq_none (h : f name = none) : without name f = f := by
  funext other
  by_cases hname : other = name
  · rw [without, if_pos hname, hname, h]
  · rw [without, if_neg hname]

theorem single_or_without (h : f name = some value) :
    (fun other => (single name value other).or (without name f other)) = f := by
  funext other
  by_cases hname : other = name
  · rw [single, if_pos hname, Option.some_or, hname, h]
  · rw [single, if_neg hname, Option.none_or, without, if_neg hname]

theorem isPlain_of_single (h : IsPlain value.toList) :
    ∀ other w, single name value other = some w → IsPlain w.toList := by
  intro other w hw
  by_cases hname : other = name
  · rw [single, if_pos hname] at hw
    rwa [← Option.some.inj hw]
  · rw [single, if_neg hname] at hw
    cases hw

/-- The function gives each name the value that it has in the list. -/
def Gives (f : String → Option String) (ps : List (String × Option String)) : Prop :=
  ∀ name value, f name = some value ↔ (name, some value) ∈ ps

theorem Gives.tail {ps : List (String × Option String)} {v : Option String}
    (h : Gives f ((name, v) :: ps)) (hnew : ∀ p ∈ ps, name ≠ p.1) : Gives (without name f) ps := by
  intro other value
  by_cases hname : other = name
  · subst hname
    rw [without, if_pos rfl]
    exact ⟨nofun, fun hmem => absurd rfl (hnew _ hmem)⟩
  · rw [without, if_neg hname, h, List.mem_cons, Prod.mk.injEq]
    simp [hname]

theorem Gives.head_eq {ps : List (String × Option String)} {v : Option String}
    (h : Gives f ((name, v) :: ps)) (hnew : ∀ p ∈ ps, name ≠ p.1) : f name = v := by
  cases v with
  | none =>
    rw [Option.eq_none_iff_forall_ne_some]
    intro value hvalue
    rcases List.mem_cons.mp ((h name value).mp hvalue) with heq | hmem
    · cases heq
    · exact hnew _ hmem rfl
  | some value => exact (h name value).mpr List.mem_cons_self

/-- The substitution of parameters gives the text of the template that they are supplied to, and
leaves those that it does not name. -/
theorem substitute_print {ps : List (String × Option String)} (h : t.Plain)
    (hkeys : ps.Pairwise fun a b => a.1 ≠ b.1) (hnames : ∀ p ∈ ps, IsUnbracketed p.1)
    (hvalues : ∀ name value, (name, some value) ∈ ps → IsPlain value.toList) (hf : Gives f ps) :
    substitute ps t.print = ((t.supply f).print, ps.filterMap fun (name, value) =>
      if name ∈ t.names then none else value.map (name, ·)) := by
  induction ps generalizing t f with
  | nil =>
    have hnone : f = fun _ => none := by
      funext name
      rw [Option.eq_none_iff_forall_ne_some]
      intro value hvalue
      cases (hf name value).mp hvalue
    rw [hnone, supply_none]
    rfl
  | cons p ps ih =>
    obtain ⟨name, v⟩ := p
    obtain ⟨hnew, hkeys'⟩ := List.pairwise_cons.mp hkeys
    have hname : IsUnbracketed name := hnames _ List.mem_cons_self
    have htail : ∀ {t : Template}, t.Plain → substitute ps t.print =
        ((t.supply (without name f)).print, ps.filterMap fun (name, value) =>
          if name ∈ t.names then none else value.map (name, ·)) :=
      fun ht => ih ht hkeys' (fun p hp => hnames p (List.mem_cons_of_mem _ hp))
        (fun n value hp => hvalues n value (List.mem_cons_of_mem _ hp)) (hf.tail hnew)
    cases v with
    | none =>
      rw [substitute, htail h, without_of_eq_none (hf.head_eq hnew)]
      simp
    | some value =>
      have hplain : ∀ other w, single name value other = some w → IsPlain w.toList :=
        isPlain_of_single (hvalues name value List.mem_cons_self)
      rw [substitute, occurs_print h hname]
      by_cases hmem : name ∈ t.names
      · rw [if_pos (decide_eq_true hmem), replaceAll_print h hname, htail (h.supply hplain),
          supply_supply, single_or_without (hf.head_eq hnew), List.filterMap_cons]
        simp only [if_pos hmem]
        congr 1
        -- no other name has been taken away
        refine List.filterMap_congr fun p hp => ?_
        have hne : p.1 ≠ name := (hnew p hp).symm
        simp [names_supply, single, hne]
      · have heq : t.supply (without name f) = t.supply f := by
          refine supply_congr fun m hm => if_neg ?_
          rintro rfl
          exact hmem hm
        rw [if_neg (by simpa using hmem), htail h, heq, List.filterMap_cons]
        simp [hmem]

end Templates

end PathRoute.Template
