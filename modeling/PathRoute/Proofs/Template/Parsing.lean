import PathRoute.Template.Parser

/-!
# What is known of a template that was read

A template that was read from a text is written as that text. No two of its placeholders have one
name, its literals are not empty, hold no brackets and do not stand side by side.
-/

namespace PathRoute.Template

/-! ## Well-formed templates -/

/-- Characters of a placeholder's name, at least one. -/
def IsName (cs : List Char) : Prop := cs ≠ [] ∧ ∀ c ∈ cs, isNameChar c = true

/-- Characters of a literal, at least one. -/
def IsText (cs : List Char) : Prop := cs ≠ [] ∧ '[' ∉ cs ∧ ']' ∉ cs

/-- The texts of all literals in template order. -/
def literals : Template → List String
  | .nil => []
  | .literal text rest => text :: rest.literals
  | .placeholder _ rest => rest.literals
  | .optional inner rest => inner.literals ++ rest.literals

def beginsLiteral : Template → Bool
  | .literal _ _ => true
  | _ => false

/-- The names are names, the literals are texts, and no literal follows another one. -/
def WellFormed : Template → Prop
  | .nil => True
  | .literal text rest => IsText text.toList ∧ rest.beginsLiteral = false ∧ rest.WellFormed
  | .placeholder name rest => IsName name.toList ∧ rest.WellFormed
  | .optional inner rest => inner.WellFormed ∧ rest.WellFormed

theorem not_isNameChar_of_mem {c : Char} (h : c ∈ ['<', '>', '[', ']', '?', '/']) :
    isNameChar c = false := by
  simp only [List.mem_cons, List.not_mem_nil, or_false] at h
  rcases h with rfl | rfl | rfl | rfl | rfl | rfl <;> decide +kernel

theorem IsName.not_mem {name : List Char} (h : IsName name) {c : Char}
    (hc : c ∈ ['<', '>', '[', ']', '?', '/']) : c ∉ name := by
  intro hmem
  have hname := h.2 c hmem
  rw [not_isNameChar_of_mem hc] at hname
  cases hname

/-- A slash stands at the front of a literal only. -/
theorem takeWhile_print {t : Template} (h : t.beginsLiteral = false) :
    t.print.takeWhile (· == '/') = [] := by
  cases t with
  | literal => cases h
  | nil | placeholder | optional => simp [print]

/-- The slashes at the front of a template are those at the front of its text. -/
theorem leadingSlashes_eq {t : Template} (h : t.WellFormed) :
    t.leadingSlashes = (t.print.takeWhile (· == '/')).length := by
  cases t with
  | literal text rest =>
    obtain ⟨-, hrest, -⟩ := h
    rw [leadingSlashes, print, List.takeWhile_append]
    split
    · rw [takeWhile_print hrest, List.append_nil]
      assumption
    · rfl
  | nil | placeholder | optional => simp [leadingSlashes, print]

/-! ## Tokens -/

namespace Token

def name? : Token → Option String
  | .placeholder cs => some (.ofList cs)
  | _ => none

def text? : Token → Option String
  | .literal cs => some (.ofList cs)
  | _ => none

/-- Tokens as they are scanned, where a text always goes on as far as it can. -/
inductive Scanned : List Token → Prop where
  | nil : Scanned []
  | opens {ts : List Token} : Scanned ts → Scanned (.opens :: ts)
  | closes {ts : List Token} : Scanned ts → Scanned (.closes :: ts)
  | placeholder {cs : List Char} {ts : List Token} :
      IsName cs → Scanned ts → Scanned (.placeholder cs :: ts)
  | literal {cs : List Char} {ts : List Token} :
      IsText cs → ts.head?.bind text? = none → Scanned ts → Scanned (.literal cs :: ts)

variable {cs name rest : List Char} {c : Char} {ts : List Token}

theorem nameAhead?_eq_some_iff :
    nameAhead? cs = some (name, rest) ↔ IsName name ∧ cs = name ++ '>' :: rest := by
  constructor
  · intro h
    refine ⟨?_, nameAhead?_eq_some h⟩
    unfold nameAhead? at h
    split at h
    · rename_i c name' rest' htake hdrop
      obtain ⟨rfl, rfl⟩ := Prod.mk.inj (Option.some.inj h)
      refine ⟨List.cons_ne_nil _ _, fun d hd => ?_⟩
      rw [← htake] at hd
      exact List.all_eq_true.mp List.all_takeWhile d hd
    · cases h
  · rintro ⟨⟨hne, hall⟩, rfl⟩
    have hstop : isNameChar '>' = false := not_isNameChar_of_mem (by simp)
    have htake : (name ++ '>' :: rest).takeWhile isNameChar = name := by
      rw [List.takeWhile_append_of_pos hall, List.takeWhile_cons_of_neg (by simp [hstop]),
        List.append_nil]
    have hdrop : (name ++ '>' :: rest).dropWhile isNameChar = '>' :: rest := by
      rw [List.dropWhile_append_of_pos hall, List.dropWhile_cons_of_neg (by simp [hstop])]
    obtain ⟨c, name, rfl⟩ := List.exists_cons_of_ne_nil hne
    simp only [nameAhead?, htake, hdrop]

theorem Scanned.consChar (h : Scanned ts) (hopen : c ≠ '[') (hclose : c ≠ ']') :
    Scanned (consChar c ts) := by
  cases h with
  | literal htext hhead h =>
    obtain ⟨-, ho, hc⟩ := htext
    exact .literal ⟨List.cons_ne_nil _ _, by simp [ho, hopen.symm], by simp [hc, hclose.symm]⟩
      hhead h
  | _ =>
    refine .literal ⟨List.cons_ne_nil _ _, by simp [hopen.symm], by simp [hclose.symm]⟩ rfl ?_
    constructor <;> assumption

theorem scanned_scan (cs : List Char) : Scanned (scan cs) := by
  fun_induction scan cs with
  | case1 => exact .nil
  | case2 cs ih => exact .opens ih
  | case3 cs ih => exact .closes ih
  | case4 cs name rest h ih => exact .placeholder (nameAhead?_eq_some_iff.mp h).1 ih
  | case5 cs h ih => exact ih.consChar (by simp) (by simp)
  | case6 c cs hopen hclose _ ih => exact ih.consChar hopen hclose

theorem mem_consChar {ds : List Char} (h : .literal ds ∈ consChar c ts) :
    .literal ds ∈ ts ∨ ds = [c] ∨ ∃ es, ds = c :: es ∧ .literal es ∈ ts := by
  unfold consChar at h
  split at h
  · rename_i es ts
    rcases List.mem_cons.mp h with heq | h
    · cases heq
      exact .inr (.inr ⟨es, rfl, List.mem_cons_self⟩)
    · exact .inl (List.mem_cons_of_mem _ h)
  · rcases List.mem_cons.mp h with heq | h
    · cases heq
      exact .inr (.inl rfl)
    · exact .inl h

/-- Every opening angle bracket of the text begins a placeholder. -/
def AllNamed (cs : List Char) : Prop :=
  ∀ before after, cs = before ++ '<' :: after → (nameAhead? after).isSome = true

theorem AllNamed.of_append (front : List Char) (h : AllNamed (front ++ cs)) : AllNamed cs := by
  rintro before after rfl
  exact h (front ++ before) after (List.append_assoc ..).symm

theorem allNamed_cons :
    AllNamed (c :: cs) ↔ (c = '<' → (nameAhead? cs).isSome = true) ∧ AllNamed cs := by
  constructor
  · intro h
    refine ⟨?_, h.of_append [c]⟩
    rintro rfl
    exact h [] cs rfl
  · rintro ⟨hc, hcs⟩ (_ | ⟨d, before⟩) after heq
    · obtain ⟨rfl, rfl⟩ := List.cons.inj heq
      exact hc rfl
    · exact hcs before after (List.cons.inj heq).2

instance decidableAllNamed : (cs : List Char) → Decidable (AllNamed cs)
  | [] => .isTrue fun before _ h => by cases before <;> cases h
  | _ :: cs =>
    have := decidableAllNamed cs
    decidable_of_iff _ allNamed_cons.symm

/-- Where every opening angle bracket begins a placeholder, none is left to the literals. -/
theorem not_mem_of_scan (h : AllNamed cs) : ∀ ds, .literal ds ∈ scan cs → '<' ∉ ds := by
  fun_induction scan cs with
  | case1 => simp
  | case2 cs ih | case3 cs ih =>
    intro ds hds
    have hrest : AllNamed cs := AllNamed.of_append [_] h
    exact ih hrest ds (by simpa using hds)
  | case4 cs name rest hahead ih =>
    intro ds hds
    obtain rfl := nameAhead?_eq_some hahead
    have hrest : AllNamed rest := AllNamed.of_append ('<' :: name ++ ['>']) (by simpa using h)
    exact ih hrest ds (by simpa using hds)
  | case5 cs hahead ih =>
    have hnamed := h [] cs rfl
    rw [hahead] at hnamed
    cases hnamed
  | case6 cs c _ _ hc ih =>
    intro ds hds
    have hrest : AllNamed cs := AllNamed.of_append [c] h
    rcases mem_consChar hds with hds | rfl | ⟨es, rfl, hes⟩
    · exact ih hrest ds hds
    · simpa using Ne.symm hc
    · rw [List.mem_cons, not_or]
      exact ⟨Ne.symm hc, ih hrest es hes⟩

end Token

/-! ## Putting tokens together -/

namespace Suffix

/-- What has been read, as it is written. -/
def print (s : Suffix) : List Char := s.items.print ++ s.after.flatMap fun t => ']' :: t.print

def names (s : Suffix) : List String := s.items.names ++ s.after.flatMap Template.names

def literals (s : Suffix) : List String := s.items.literals ++ s.after.flatMap Template.literals

theorem print_place {s : Suffix} {t : Token} (h : t = .opens → s.after ≠ []) :
    (t.place s).print = t.print ++ s.print := by
  obtain ⟨items, after⟩ := s
  cases t with
  | opens =>
    obtain ⟨u, after, rfl⟩ := List.exists_cons_of_ne_nil (h rfl)
    simp [Token.place, print, Template.print, Token.print]
  | _ => simp [Token.place, print, Template.print, Token.print]

theorem names_place (s : Suffix) (t : Token) : (t.place s).names = t.name?.toList ++ s.names := by
  obtain ⟨items, after⟩ := s
  cases t with
  | opens => cases after <;> simp [Token.place, names, Template.names, Token.name?]
  | _ => simp [Token.place, names, Template.names, Token.name?]

theorem literals_place (s : Suffix) (t : Token) :
    (t.place s).literals = t.text?.toList ++ s.literals := by
  obtain ⟨items, after⟩ := s
  cases t with
  | opens => cases after <;> simp [Token.place, literals, Template.literals, Token.text?]
  | _ => simp [Token.place, literals, Template.literals, Token.text?]

end Suffix

variable {ts : List Token} {position : Nat} {openings : List Nat} {seen : List String}

theorem names_foldr (ts : List Token) :
    (ts.foldr Token.place {}).names = ts.flatMap (·.name?.toList) := by
  induction ts with
  | nil => rfl
  | cons t ts ih => rw [List.foldr_cons, Suffix.names_place, ih, List.flatMap_cons]

theorem literals_foldr (ts : List Token) :
    (ts.foldr Token.place {}).literals = ts.flatMap (·.text?.toList) := by
  induction ts with
  | nil => rfl
  | cons t ts ih => rw [List.foldr_cons, Suffix.literals_place, ih, List.flatMap_cons]

/-- Tokens without fault close the brackets that are open before them. -/
theorem length_after_of_check (h : check ts position openings seen = .ok ()) :
    (ts.foldr Token.place {}).after.length = openings.length := by
  fun_induction check ts position openings seen with
  | case1 => rfl
  | case2 | case4 | case6 => cases h
  | case3 _ _ _ _ ih => simp [Token.place, ih h]
  | case5 _ _ _ _ _ ih => simp [Token.place, ih h]
  | case7 _ _ _ _ _ _ _ ih | case8 _ _ _ _ _ ih => exact ih h

/-- Tokens without fault are written as they were. -/
theorem print_of_check (h : check ts position openings seen = .ok ()) :
    (ts.foldr Token.place {}).print = ts.flatMap Token.print := by
  fun_induction check ts position openings seen with
  | case1 => rfl
  | case2 | case4 | case6 => cases h
  | case3 ts p openings seen ih =>
    have hlen := length_after_of_check h
    rw [List.foldr_cons, Suffix.print_place, ih h, List.flatMap_cons]
    rintro - hnil
    rw [hnil] at hlen
    cases hlen
  | case5 _ _ _ _ _ ih | case7 _ _ _ _ _ _ _ ih | case8 _ _ _ _ _ ih =>
    rw [List.foldr_cons, Suffix.print_place (by simp), ih h, List.flatMap_cons]

/-- The names in tokens without fault are new and differ from each other. -/
theorem names_of_check (h : check ts position openings seen = .ok ()) :
    (ts.flatMap (·.name?.toList)).Nodup ∧ ∀ name ∈ ts.flatMap (·.name?.toList), name ∉ seen := by
  fun_induction check ts position openings seen with
  | case1 => simp
  | case2 | case4 | case6 => cases h
  | case3 _ _ _ _ ih | case5 _ _ _ _ _ ih | case8 _ _ _ _ _ ih => exact ih h
  | case7 cs ts p openings seen name hseen ih =>
    obtain ⟨hnodup, hnew⟩ := ih h
    have hnames : (Token.placeholder cs :: ts).flatMap (·.name?.toList) =
        name :: ts.flatMap (·.name?.toList) := rfl
    rw [hnames]
    refine ⟨List.nodup_cons.mpr ⟨fun hmem => hnew _ hmem List.mem_cons_self, hnodup⟩, ?_⟩
    intro other hother
    rcases List.mem_cons.mp hother with rfl | hother
    · simpa using hseen
    · exact fun hmem => hnew other hother (List.mem_cons_of_mem _ hmem)

theorem beginsLiteral_foldr (ts : List Token) (h : ts.head?.bind Token.text? = none) :
    (ts.foldr Token.place {}).items.beginsLiteral = false := by
  cases ts with
  | nil => rfl
  | cons t ts =>
    cases t with
    | literal cs => cases h
    | _ => rfl

theorem wellFormed_foldr (h : Token.Scanned ts) :
    (ts.foldr Token.place {}).items.WellFormed ∧
      ∀ t ∈ (ts.foldr Token.place {}).after, t.WellFormed := by
  induction h with
  | nil => exact ⟨trivial, by simp⟩
  | @opens ts _ ih =>
    obtain ⟨hitems, hafter⟩ := ih
    refine ⟨⟨hitems, ?_⟩, fun t ht => hafter t (List.mem_of_mem_tail ht)⟩
    cases hs : (ts.foldr Token.place {}).after with
    | nil => trivial
    | cons t after => exact hafter t (by rw [hs]; exact List.mem_cons_self)
  | closes _ ih =>
    obtain ⟨hitems, hafter⟩ := ih
    exact ⟨trivial, List.forall_mem_cons.mpr ⟨hitems, hafter⟩⟩
  | placeholder hname _ ih =>
    obtain ⟨hitems, hafter⟩ := ih
    exact ⟨⟨by rwa [String.toList_ofList], hitems⟩, hafter⟩
  | literal htext hhead _ ih =>
    obtain ⟨hitems, hafter⟩ := ih
    exact ⟨⟨by rwa [String.toList_ofList], beginsLiteral_foldr _ hhead, hitems⟩, hafter⟩

/-- What is known of the template of a text. -/
structure Parsed (text : List Char) (t : Template) : Prop where
  print_eq : t.print = text
  wellFormed : t.WellFormed
  names_nodup : t.names.Nodup
  literals_eq : t.literals = (Token.scan text).flatMap (·.text?.toList)

theorem parsed_of_parse {text : String} {t : Template} (h : parse text = .ok t) :
    Parsed text.toList t := by
  simp only [parse, bind, Except.bind, pure, Except.pure] at h
  split at h
  · cases h
  rename_i hcheck
  obtain rfl := Except.ok.inj h
  have hafter := List.eq_nil_of_length_eq_zero (length_after_of_check hcheck)
  have hprint := print_of_check hcheck
  have hnames := names_foldr (Token.scan text.toList)
  have hliterals := literals_foldr (Token.scan text.toList)
  simp only [Suffix.print, Suffix.names, Suffix.literals, hafter, List.flatMap_nil,
    List.append_nil] at hprint hnames hliterals
  refine ⟨?_, (wellFormed_foldr (Token.scanned_scan _)).1, ?_, hliterals⟩
  · rw [assemble, hprint, Token.print_scan]
  · rw [assemble, hnames]
    exact (names_of_check hcheck).1

theorem Parsed.not_mem_literals {text : List Char} {t : Template} (h : Parsed text t)
    (hnamed : Token.AllNamed text) : ∀ s ∈ t.literals, '<' ∉ s.toList := by
  intro s hs
  rw [h.literals_eq, List.mem_flatMap] at hs
  obtain ⟨token, htoken, hs⟩ := hs
  cases token with
  | literal ds =>
    rw [Token.text?, Option.mem_toList, Option.some.injEq] at hs
    rw [← hs, String.toList_ofList]
    exact Token.not_mem_of_scan hnamed ds htoken
  | placeholder | opens | closes => cases hs

end PathRoute.Template
