import PathRoute.Proofs.Template.Collapsing

/-!
# Canonical templates

A template is canonical if it is what its own text is read as: its names are names and differ from
each other, and its literals are texts that go on as far as they can and hold no token. Reading and
printing are inverse to each other between all texts that can be read and all canonical templates.
-/

namespace PathRoute.Template

/-- A template with one written form: its names are names, its literals are texts, none of which
follows another one or holds the token of a placeholder, and no two placeholders have one name. -/
structure Canonical (t : Template) : Prop where
  wellFormed : t.WellFormed
  names_nodup : t.names.Nodup
  literals : ∀ text ∈ t.literals, hasToken text.toList = false

/-- The tokens of a template. -/
def tokens : Template → List Token
  | .nil => []
  | .literal text rest => .literal text.toList :: rest.tokens
  | .placeholder name rest => .placeholder name.toList :: rest.tokens
  | .optional inner rest => .opens :: (inner.tokens ++ .closes :: rest.tokens)

variable {t : Template} {cs ds name : List Char} {c : Char}

/-! ## Texts that were read -/

theorem hasToken_eq_false_iff : hasToken cs = false ↔
    ∀ before after, cs = before ++ '<' :: after → Token.nameAhead? after = none := by
  induction cs with
  | nil => simp [hasToken]
  | cons c cs ih =>
    simp only [hasToken, Bool.or_eq_false_iff, Bool.and_eq_false_iff, ih]
    constructor
    · rintro ⟨hc, hcs⟩ (_ | ⟨d, before⟩) after heq
      · obtain ⟨rfl, rfl⟩ := List.cons.inj heq
        simpa using hc
      · exact hcs before after (List.cons.inj heq).2
    · intro h
      refine ⟨?_, fun before after heq => h (c :: before) after (by rw [heq]; rfl)⟩
      by_cases hc : c = '<'
      · exact .inr (by simp [h [] cs (by rw [hc]; rfl)])
      · exact .inl (by simpa using hc)

namespace Token

/-- A name with its bracket stays ahead when the text goes on. -/
theorem nameAhead?_append_isSome (h : (nameAhead? ds).isSome = true) (cs : List Char) :
    (nameAhead? (ds ++ cs)).isSome = true := by
  obtain ⟨⟨name, rest⟩, h⟩ := Option.isSome_iff_exists.mp h
  obtain ⟨hname, rfl⟩ := nameAhead?_eq_some_iff.mp h
  have hahead : nameAhead? (name ++ '>' :: rest ++ cs) = some (name, rest ++ cs) :=
    nameAhead?_eq_some_iff.mpr ⟨hname, by simp⟩
  rw [hahead]
  rfl

/-- What begins no placeholder in the text begins none in a front of it either. -/
theorem nameAhead?_of_append (h : nameAhead? (ds ++ cs) = none) : nameAhead? ds = none := by
  rw [← Option.not_isSome_iff_eq_none] at h ⊢
  exact mt (nameAhead?_append_isSome · cs) h

/-- A text that was scanned holds no token, since it would have been scanned as one. -/
theorem hasToken_of_scan (cs : List Char) : ∀ ds, .literal ds ∈ scan cs → hasToken ds = false := by
  -- a text with another character in front has the old text as the front of what was scanned
  have hjoin : ∀ {c : Char} {cs : List Char},
      (∀ ds, .literal ds ∈ scan cs → hasToken ds = false) → (c = '<' → nameAhead? cs = none) →
      ∀ ds, .literal ds ∈ consChar c (scan cs) → hasToken ds = false := by
    intro c cs ih hc ds hds
    have hprint := print_scan cs
    unfold consChar at hds
    split at hds
    · rename_i es ts hscan
      rw [hscan] at ih hprint
      rcases List.mem_cons.mp hds with heq | hds
      · cases heq
        have hes := ih es List.mem_cons_self
        have hfront : c = '<' → nameAhead? es = none := by
          intro hlt
          have hall : nameAhead? (es ++ ts.flatMap print) = none := by
            rw [← hc hlt, ← hprint]
            rfl
          exact nameAhead?_of_append hall
        by_cases hlt : c = '<'
        · simp [hasToken, hes, hfront hlt]
        · simp [hasToken, hes, hlt]
      · exact ih ds (List.mem_cons_of_mem _ hds)
    · rcases List.mem_cons.mp hds with heq | hds
      · cases heq
        simp [hasToken, nameAhead?]
      · exact ih ds hds
  fun_induction scan cs with
  | case1 => simp
  | case2 cs ih | case3 cs ih => intro ds hds; exact ih ds (by simpa using hds)
  | case4 cs name rest h ih => intro ds hds; exact ih ds (by simpa using hds)
  | case5 cs h ih => exact hjoin ih fun _ => h
  | case6 c cs _ _ hc ih => exact hjoin ih fun h => absurd h hc

/-! ## Scanning what is printed -/

/-- No text goes on with the characters: there are none, or they begin with a bracket or with a
placeholder. -/
inductive EndsText : List Char → Prop where
  | nil : EndsText []
  | opens {cs : List Char} : EndsText ('[' :: cs)
  | closes {cs : List Char} : EndsText (']' :: cs)
  | placeholder {name cs : List Char} : IsName name → EndsText ('<' :: (name ++ '>' :: cs))

theorem scan_placeholder (h : IsName name) (cs : List Char) :
    scan ('<' :: (name ++ '>' :: cs)) = .placeholder name :: scan cs := by
  have hahead : nameAhead? (name ++ '>' :: cs) = some (name, cs) :=
    nameAhead?_eq_some_iff.mpr ⟨h, rfl⟩
  rw [scan]
  split
  · rename_i heq
    obtain ⟨rfl, rfl⟩ := Prod.mk.inj (Option.some.inj (hahead.symm.trans heq))
    rfl
  · rename_i heq
    rw [hahead] at heq
    cases heq

/-- A character that begins no bracket and no placeholder joins the text. -/
theorem scan_char (ho : c ≠ '[') (hc : c ≠ ']') (hn : c = '<' → nameAhead? cs = none) :
    scan (c :: cs) = consChar c (scan cs) := by
  by_cases hlt : c = '<'
  · subst hlt
    rw [scan]
    split
    · rename_i heq
      rw [hn rfl] at heq
      cases heq
    · rfl
  · rw [scan]
    · exact ho
    · exact hc
    · exact hlt

theorem text?_head?_scan (h : EndsText cs) : (scan cs).head?.bind text? = none := by
  cases h with
  | nil | opens | closes => simp [scan, text?]
  | placeholder h =>
    rw [scan_placeholder h]
    rfl

theorem consChar_of_text? {ts : List Token} (h : ts.head?.bind text? = none) (c : Char) :
    consChar c ts = .literal [c] :: ts := by
  unfold consChar
  split
  · cases h
  · rfl

/-- Where the text ends, no placeholder begins in it that did not already before. -/
theorem nameAhead?_append (h : nameAhead? ds = none) (hcs : EndsText cs) :
    nameAhead? (ds ++ cs) = none := by
  rw [Option.eq_none_iff_forall_ne_some]
  rintro ⟨name, rest⟩ heq
  obtain ⟨hname, heq⟩ := nameAhead?_eq_some_iff.mp heq
  -- the name ends within the text, or else with a character that ends the text
  rcases List.append_eq_append_iff.mp heq with ⟨es, rfl, hcs'⟩ | ⟨es, rfl, hes⟩
  · cases es with
    | nil =>
      rw [List.nil_append] at hcs'
      rw [hcs'] at hcs
      cases hcs
    | cons e es =>
      have hmem : e ∈ ds ++ e :: es := by simp
      rw [hcs', List.cons_append] at hcs
      generalize es ++ '>' :: rest = tail at hcs
      cases hcs <;> exact hname.not_mem (by simp) hmem
  · cases es with
    | nil =>
      rw [List.nil_append] at hes
      rw [← hes] at hcs
      cases hcs
    | cons e es =>
      obtain ⟨rfl, rfl⟩ := List.cons.inj hes
      rw [nameAhead?_eq_some_iff.mpr ⟨hname, rfl⟩] at h
      cases h

/-- A text without tokens that ends is scanned as one. -/
theorem scan_text (h : IsText ds) (htoken : hasToken ds = false) (hcs : EndsText cs) :
    scan (ds ++ cs) = .literal ds :: scan cs := by
  induction ds with
  | nil => exact absurd rfl h.1
  | cons d ds ih =>
    obtain ⟨-, hopen, hclose⟩ := h
    rw [List.mem_cons, not_or] at hopen hclose
    have hd : d = '<' → nameAhead? ds = none := by
      rintro rfl
      exact hasToken_eq_false_iff.mp htoken [] ds rfl
    have hscan := scan_char (Ne.symm hopen.1) (Ne.symm hclose.1)
      fun heq => nameAhead?_append (hd heq) hcs
    rw [List.cons_append, hscan]
    by_cases hds : ds = []
    · rw [hds, List.nil_append, consChar_of_text? (text?_head?_scan hcs)]
    · have htoken : hasToken ds = false := (Bool.or_eq_false_iff.mp htoken).2
      rw [ih ⟨hds, hopen.2, hclose.2⟩ htoken]
      rfl

end Token

theorem endsText_print (hw : t.WellFormed) (hb : t.beginsLiteral = false)
    (hcs : Token.EndsText cs) : Token.EndsText (t.print ++ cs) := by
  cases t with
  | nil => exact hcs
  | literal => cases hb
  | placeholder name rest =>
    rw [print, List.cons_append, List.append_assoc]
    exact .placeholder hw.1
  | optional => exact .opens

theorem scan_print_append (hw : t.WellFormed)
    (hl : ∀ text ∈ t.literals, hasToken text.toList = false) (hcs : Token.EndsText cs) :
    Token.scan (t.print ++ cs) = t.tokens ++ Token.scan cs := by
  induction t generalizing cs with
  | nil => rfl
  | literal text rest ih =>
    obtain ⟨htext, hrest, hw⟩ := hw
    obtain ⟨htoken, hl⟩ := List.forall_mem_cons.mp hl
    rw [print, List.append_assoc, Token.scan_text htext htoken (endsText_print hw hrest hcs),
      ih hw hl hcs]
    rfl
  | placeholder name rest ih =>
    rw [print, List.cons_append, List.append_assoc, List.cons_append,
      Token.scan_placeholder hw.1, ih hw.2 hl hcs]
    rfl
  | optional inner rest ihi ihr =>
    obtain ⟨hli, hlr⟩ := List.forall_mem_append.mp hl
    have hclose :
        Token.scan (']' :: (rest.print ++ cs)) = .closes :: Token.scan (rest.print ++ cs) := by
      rw [Token.scan]
    rw [print, List.cons_append, List.append_assoc, List.cons_append, Token.scan,
      ihi hw.1 hli .closes, hclose, ihr hw.2 hlr hcs, tokens, List.cons_append,
      List.append_assoc, List.cons_append]

/-! ## Putting the tokens of a template together -/

/-- The tokens of a template have no fault, and leave the brackets before them as they were. -/
theorem check_tokens (hn : t.names.Nodup) {seen : List String} (hs : ∀ name ∈ t.names, name ∉ seen)
    (ts : List Token) (position : Nat) (openings : List Nat) :
    ∃ position', check (t.tokens ++ ts) position openings seen =
      check ts position' openings (t.names.reverse ++ seen) := by
  induction t generalizing ts position openings seen with
  | nil => exact ⟨position, rfl⟩
  | literal text rest ih => exact ih hn hs ts _ openings
  | placeholder name rest ih =>
    obtain ⟨hnew, hn⟩ := List.nodup_cons.mp hn
    obtain ⟨hname, hs⟩ := List.forall_mem_cons.mp hs
    have hrest : ∀ other ∈ rest.names, other ∉ name :: seen := by
      intro other hother
      rw [List.mem_cons, not_or]
      refine ⟨?_, hs other hother⟩
      rintro rfl
      exact hnew hother
    obtain ⟨position', h⟩ :=
      ih hn hrest ts (position + (Token.placeholder name.toList).width) openings
    refine ⟨position', ?_⟩
    have hcontains : seen.contains name = false := by simpa using hname
    simp only [tokens, List.cons_append, check, String.ofList_toList, hcontains, names,
      List.reverse_cons, List.append_assoc, List.nil_append]
    exact h
  | optional inner rest ihi ihr =>
    obtain ⟨hni, hnr, hdisjoint⟩ := List.nodup_append.mp hn
    obtain ⟨hsi, hsr⟩ := List.forall_mem_append.mp hs
    have hrest : ∀ name ∈ rest.names, name ∉ inner.names.reverse ++ seen := by
      intro name hname
      rw [List.mem_append, List.mem_reverse, not_or]
      exact ⟨fun hmem => hdisjoint name hmem name hname rfl, hsr name hname⟩
    obtain ⟨p, hi⟩ := ihi hni hsi (.closes :: (rest.tokens ++ ts)) (position + 1)
      (position :: openings)
    obtain ⟨p', hr⟩ := ihr hnr hrest ts (p + 1) openings
    refine ⟨p', ?_⟩
    simp only [tokens, List.cons_append, List.append_assoc, check, names, List.reverse_append]
    rw [hi, check, hr]

/-- The tokens of a template are put together to it, in front of what closes the level. -/
theorem foldr_tokens (t : Template) {ts : List Token}
    (h : (ts.foldr Token.place {}).items = .nil) :
    (t.tokens ++ ts).foldr Token.place {} = ⟨t, (ts.foldr Token.place {}).after⟩ := by
  induction t generalizing ts with
  | nil =>
    rw [tokens, List.nil_append]
    exact congrArg (Suffix.mk · _) h
  | literal text rest ih | placeholder name rest ih =>
    rw [tokens, List.cons_append, List.foldr_cons, ih h]
    simp [Token.place]
  | optional inner rest ihi ihr =>
    have hclose : ((Token.closes :: (rest.tokens ++ ts)).foldr Token.place {}) =
        ⟨.nil, rest :: (ts.foldr Token.place {}).after⟩ := by
      rw [List.foldr_cons, ihr h]
      rfl
    rw [tokens, List.cons_append, List.append_assoc, List.cons_append, List.foldr_cons,
      ihi (by rw [hclose]), hclose]
    rfl

theorem assemble_tokens (t : Template) : assemble t.tokens = t := by
  have h : (t.tokens ++ []).foldr Token.place {} = ⟨t, []⟩ := foldr_tokens t rfl
  rw [List.append_nil] at h
  rw [assemble, h]

/-! ## Reading and printing -/

theorem canonical_of_parse {text : String} (h : parse text = .ok t) : t.Canonical := by
  have hparsed := parsed_of_parse h
  refine ⟨hparsed.wellFormed, hparsed.names_nodup, fun literal hmem => ?_⟩
  rw [hparsed.literals_eq, List.mem_flatMap] at hmem
  obtain ⟨token, htoken, hmem⟩ := hmem
  cases token with
  | literal ds =>
    rw [Token.text?, Option.mem_toList, Option.some.injEq] at hmem
    rw [← hmem, String.toList_ofList]
    exact Token.hasToken_of_scan _ ds htoken
  | placeholder | opens | closes => cases hmem

theorem parse_print (h : t.Canonical) : parse (.ofList t.print) = .ok t := by
  have hscan := scan_print_append h.wellFormed h.literals .nil
  rw [List.append_nil, Token.scan, List.append_nil] at hscan
  have hnew : ∀ name ∈ t.names, name ∉ ([] : List String) := by simp
  obtain ⟨position, hcheck⟩ := check_tokens h.names_nodup hnew [] 0 []
  rw [List.append_nil] at hcheck
  have hassemble := t.assemble_tokens
  simp only [parse, String.toList_ofList, hscan, hcheck, check, hassemble]
  rfl

/-- A text is read as a template exactly if the template is canonical and is written as the text.
So every text that can be read is printed again, and every canonical template is read again. -/
theorem parse_eq_ok_iff {text : String} {t : Template} :
    parse text = .ok t ↔ t.Canonical ∧ String.ofList t.print = text := by
  constructor
  · intro h
    refine ⟨canonical_of_parse h, ?_⟩
    rw [(parsed_of_parse h).print_eq, String.ofList_toList]
  · rintro ⟨h, rfl⟩
    exact parse_print h

end PathRoute.Template
