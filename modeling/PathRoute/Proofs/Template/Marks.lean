import PathRoute.Proofs.Template.Printing

/-!
# Marks of a text

A template is outlined by its opening brackets and its tokens, each with the number of brackets that
are open around it. The text shows the same outline as the template that is read from it, without
being parsed: names are looked for at every character.
-/

namespace PathRoute.Template

/-- The opening brackets and the tokens of a text from left to right, with the depth they stand at.
A bracket has no name. -/
def Token.marks (depth : Nat) : List Char → List (Nat × Option String)
  | [] => []
  | c :: cs =>
    if c = '[' then (depth, none) :: marks (depth + 1) cs
    else if c = ']' then marks (depth - 1) cs
    else if c = '<' then
      match nameAhead? cs with
      | some (name, _) => (depth, some (.ofList name)) :: marks depth cs
      | none => marks depth cs
    else marks depth cs

/-- The groups and the placeholders of a template in its order, with the depth they stand at. -/
def marks (depth : Nat) : Template → List (Nat × Option String)
  | .nil => []
  | .literal _ rest => rest.marks depth
  | .placeholder name rest => (depth, some name) :: rest.marks depth
  | .optional inner rest => (depth, none) :: (inner.marks (depth + 1) ++ rest.marks depth)

/-- The names of the tokens of a text. -/
def Token.names (cs : List Char) : List String := (marks 0 cs).filterMap (·.2)

/-- The names of the marks that stand at a depth. -/
def namesAt (depth : Nat) (ms : List (Nat × Option String)) : List String :=
  (ms.filter (·.1 = depth)).filterMap (·.2)

variable {t : Template} {cs ds name : List Char} {c : Char} {depth : Nat}
  {ms ns : List (Nat × Option String)}

/-! ## Marks of a template -/

theorem map_snd_marks (t : Template) (depth : Nat) :
    (t.marks depth).map Prod.snd = t.captureOrder := by
  induction t generalizing depth with
  | nil => rfl
  | literal text rest ih => exact ih depth
  | placeholder name rest ih => exact congrArg _ (ih depth)
  | optional inner rest ihi ihr =>
    rw [marks, List.map_cons, List.map_append, ihi, ihr, captureOrder]

theorem le_of_mem_marks {m : Nat × Option String} (h : m ∈ t.marks depth) : depth ≤ m.1 := by
  induction t generalizing depth with
  | nil => cases h
  | literal text rest ih => exact ih h
  | placeholder name rest ih =>
    rcases List.mem_cons.mp h with rfl | h
    · exact Nat.le_refl _
    · exact ih h
  | optional inner rest ihi ihr =>
    rcases List.mem_cons.mp h with rfl | h
    · exact Nat.le_refl _
    · rcases List.mem_append.mp h with h | h
      · exact Nat.le_of_succ_le (ihi h)
      · exact ihr h

theorem namesAt_append : namesAt depth (ms ++ ns) = namesAt depth ms ++ namesAt depth ns := by
  rw [namesAt, List.filter_append, List.filterMap_append]
  rfl

theorem namesAt_eq_nil (h : ∀ m ∈ ms, depth < m.1) : namesAt depth ms = [] := by
  have hfilter : ms.filter (·.1 = depth) = [] := by
    rw [List.filter_eq_nil_iff]
    intro m hm
    simpa using Nat.ne_of_gt (h m hm)
  rw [namesAt, hfilter, List.filterMap_nil]

theorem namesAt_marks (t : Template) (depth : Nat) :
    namesAt depth (t.marks depth) = t.required := by
  induction t generalizing depth with
  | nil => rfl
  | literal text rest ih => exact ih depth
  | placeholder name rest ih =>
    have hhead : namesAt depth [(depth, some name)] = [name] := by simp [namesAt]
    rw [marks, ← List.singleton_append, namesAt_append, hhead, ih]
    rfl
  | optional inner rest ihi ihr =>
    have hhead : namesAt depth [(depth, none)] = [] := by simp [namesAt]
    have hinner : namesAt depth (inner.marks (depth + 1)) = [] :=
      namesAt_eq_nil fun m hm => le_of_mem_marks hm
    rw [marks, ← List.singleton_append, namesAt_append, namesAt_append, hhead, hinner, ihr]
    rfl

/-! ## Marks of a text -/

namespace Token

theorem marks_open (depth : Nat) (cs : List Char) :
    marks depth ('[' :: cs) = (depth, none) :: marks (depth + 1) cs := by
  rw [marks, if_pos rfl]

theorem marks_close (depth : Nat) (cs : List Char) :
    marks depth (']' :: cs) = marks (depth - 1) cs := by
  rw [marks, if_neg (by decide), if_pos rfl]

theorem marks_cons (ho : c ≠ '[') (hc : c ≠ ']') (hn : c = '<' → nameAhead? cs = none) :
    marks depth (c :: cs) = marks depth cs := by
  rw [marks, if_neg ho, if_neg hc]
  split
  · rename_i hlt
    rw [hn hlt]
  · rfl

/-- A text without brackets in which no token begins has no marks. -/
theorem marks_append (hopen : '[' ∉ ds) (hclose : ']' ∉ ds)
    (hnone : ∀ before after, ds = before ++ '<' :: after → nameAhead? (after ++ cs) = none) :
    marks depth (ds ++ cs) = marks depth cs := by
  induction ds with
  | nil => rfl
  | cons d ds ih =>
    rw [List.mem_cons, not_or] at hopen hclose
    have hd : d = '<' → nameAhead? (ds ++ cs) = none := by
      rintro rfl
      exact hnone [] ds rfl
    have hrest : ∀ before after, ds = before ++ '<' :: after → nameAhead? (after ++ cs) = none := by
      rintro before after rfl
      exact hnone (d :: before) after rfl
    rw [List.cons_append, marks_cons (Ne.symm hopen.1) (Ne.symm hclose.1) hd,
      ih hopen.2 hclose.2 hrest]

theorem marks_text (h : IsText ds) (htoken : hasToken ds = false) (hcs : EndsText cs) :
    marks depth (ds ++ cs) = marks depth cs :=
  marks_append h.2.1 h.2.2 fun before after heq =>
    nameAhead?_append (hasToken_eq_false_iff.mp htoken before after heq) hcs

theorem marks_of_isPlain (h : IsPlain ds) : marks depth (ds ++ cs) = marks depth cs := by
  refine marks_append h.2.1 h.2.2 ?_
  rintro before after rfl
  exact absurd (by simp) h.1

theorem marks_placeholder (h : IsName name) (cs : List Char) :
    marks depth ('<' :: (name ++ '>' :: cs)) = (depth, some (.ofList name)) :: marks depth cs := by
  have hahead : nameAhead? (name ++ '>' :: cs) = some (name, cs) :=
    nameAhead?_eq_some_iff.mpr ⟨h, rfl⟩
  have hplain : IsPlain (name ++ ['>']) := by
    have hnot : ∀ c ∈ ['<', '[', ']'], c ∉ name := fun c hc => h.not_mem (by grind)
    simpa [IsPlain] using hnot
  have hname : marks depth (name ++ ['>'] ++ cs) = marks depth cs := marks_of_isPlain hplain
  rw [List.append_assoc, List.singleton_append] at hname
  rw [marks, if_neg (by decide), if_neg (by decide), if_pos rfl, hahead, hname]

end Token

/-- The text of a template shows its marks. -/
theorem marks_print_append (hw : t.WellFormed)
    (hl : ∀ text ∈ t.literals, hasToken text.toList = false) (hcs : Token.EndsText cs) :
    Token.marks depth (t.print ++ cs) = t.marks depth ++ Token.marks depth cs := by
  induction t generalizing cs depth with
  | nil => rfl
  | literal text rest ih =>
    obtain ⟨htext, hrest, hw⟩ := hw
    obtain ⟨htoken, hl⟩ := List.forall_mem_cons.mp hl
    rw [print, List.append_assoc, Token.marks_text htext htoken (endsText_print hw hrest hcs),
      ih hw hl hcs]
    rfl
  | placeholder name rest ih =>
    rw [print, List.cons_append, List.append_assoc, List.cons_append,
      Token.marks_placeholder hw.1, ih hw.2 hl hcs, String.ofList_toList]
    rfl
  | optional inner rest ihi ihr =>
    obtain ⟨hli, hlr⟩ := List.forall_mem_append.mp hl
    rw [print, List.cons_append, List.append_assoc, List.cons_append, Token.marks_open,
      ihi hw.1 hli .closes, Token.marks_close, Nat.add_sub_cancel, ihr hw.2 hlr hcs, marks,
      List.cons_append, List.append_assoc]

/-- A text that is read shows the marks of its template. -/
theorem marks_of_parse {text : String} (h : parse text = .ok t) (depth : Nat) :
    Token.marks depth text.toList = t.marks depth := by
  have hcanonical := canonical_of_parse h
  have hmarks : Token.marks depth (t.print ++ []) = _ :=
    marks_print_append hcanonical.wellFormed hcanonical.literals .nil
  rwa [List.append_nil, (parsed_of_parse h).print_eq, Token.marks, List.append_nil] at hmarks

/-- The tokens of a text that is read are the placeholders of the template, at whatever depth. -/
theorem names_of_parse {text : String} (h : parse text = .ok t) :
    Token.names text.toList = t.names := by
  rw [Token.names, marks_of_parse h, names_eq, ← map_snd_marks t 0, List.filterMap_map]
  rfl

end PathRoute.Template
