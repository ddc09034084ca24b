import PathRoute.Text.Utf8

/-!
# Reading UTF-8 back

The bytes of characters are read as these characters: `decodeLossy_encode`.
-/

namespace PathRoute.Utf8

variable {n l : Nat} {lo hi : UInt8} {bs : List UInt8}

theorem toNat_ofNat (h : n < 0x100) : (UInt8.ofNat n).toNat = n := UInt8.toNat_ofNat_of_lt' h

/-! ## First bytes -/

theorem lead?_two (h : 0xC2 ≤ l) (h' : l ≤ 0xDF) : lead? (.ofNat l) = some (1, 0x80, 0xBF) := by
  have hall : ∀ l < 0xE0, 0xC2 ≤ l → lead? (.ofNat l) = some (1, 0x80, 0xBF) := by
    decide +kernel
  exact hall l (by omega) h

theorem lead?_three (h : 0xE0 ≤ l) (h' : l ≤ 0xEF) : lead? (.ofNat l) =
    some (2, if l = 0xE0 then 0xA0 else 0x80, if l = 0xED then 0x9F else 0xBF) := by
  have hall : ∀ l < 0xF0, 0xE0 ≤ l → lead? (.ofNat l) =
      some (2, if l = 0xE0 then 0xA0 else 0x80, if l = 0xED then 0x9F else 0xBF) := by
    decide +kernel
  exact hall l (by omega) h

theorem lead?_four (h : 0xF0 ≤ l) (h' : l ≤ 0xF4) : lead? (.ofNat l) =
    some (3, if l = 0xF0 then 0x90 else 0x80, if l = 0xF4 then 0x8F else 0xBF) := by
  have hall : ∀ l < 0xF5, 0xF0 ≤ l → lead? (.ofNat l) =
      some (3, if l = 0xF0 then 0x90 else 0x80, if l = 0xF4 then 0x8F else 0xBF) := by
    decide +kernel
  exact hall l (by omega) h

theorem next_of_lead {count : Nat} (h : 0x80 ≤ l) (h' : l < 0x100)
    (hl : lead? (.ofNat l) = some (count, lo, hi)) :
    next (.ofNat l) bs =
      ((follow count lo hi (l % leadValues count) bs).1.map Char.ofNat,
        (follow count lo hi (l % leadValues count) bs).2) := by
  have hlt : ¬UInt8.ofNat l < 0x80 := by
    rw [UInt8.lt_iff_toNat_lt, toNat_ofNat h']
    exact Nat.not_lt.mpr h
  rw [next, if_neg hlt, hl, toNat_ofNat h']

/-! ## Bytes that follow -/

/-- A byte that follows adds six bits to the code. -/
theorem follow_succ {count code v : Nat} (hv : v < 0x40) (hlo : lo.toNat ≤ 0x80 + v)
    (hhi : 0x80 + v ≤ hi.toNat) :
    follow (count + 1) lo hi code (.ofNat (0x80 + v) :: bs) =
      follow count 0x80 0xBF (code * 0x40 + v) bs := by
  have hnat : (UInt8.ofNat (0x80 + v)).toNat = 0x80 + v := toNat_ofNat (by omega)
  rw [follow, if_pos, hnat]
  · congr 2
    omega
  · rw [Bool.and_eq_true, decide_eq_true_eq, decide_eq_true_eq, UInt8.le_iff_toNat_le,
      UInt8.le_iff_toNat_le, hnat]
    exact ⟨hlo, hhi⟩

theorem follow_tail {count code v : Nat} (hv : v < 0x40) :
    follow (count + 1) 0x80 0xBF code (.ofNat (0x80 + v) :: bs) =
      follow count 0x80 0xBF (code * 0x40 + v) bs :=
  follow_succ hv (Nat.le_add_right _ _) (by show 0x80 + v ≤ 0xBF; omega)

/-! ## Characters of each length -/

theorem next_one (h : n < 0x80) : next (.ofNat n) bs = (some (Char.ofNat n), bs) := by
  have hlt : UInt8.ofNat n < 0x80 := by
    rw [UInt8.lt_iff_toNat_lt, toNat_ofNat (by omega)]
    exact h
  rw [next, if_pos hlt, toNat_ofNat (by omega)]

theorem next_two (h : 0x80 ≤ n) (h' : n < 0x800) :
    next (.ofNat (0xC0 + n / 0x40)) (.ofNat (0x80 + n / 1 % 0x40) :: bs) =
      (some (Char.ofNat n), bs) := by
  have hcode : (0xC0 + n / 0x40) % leadValues 1 * 0x40 + n / 1 % 0x40 = n := by
    show (0xC0 + n / 0x40) % 0x20 * 0x40 + n / 1 % 0x40 = n
    omega
  rw [next_of_lead (by omega) (by omega) (lead?_two (by omega) (by omega)),
    follow_tail (by omega), follow, hcode]
  rfl

/-- The bounds of the second byte leave out overlong forms and surrogates. -/
theorem next_three (h : 0x800 ≤ n) (h' : n < 0x10000) (hn : n < 0xD800 ∨ 0xDFFF < n) :
    next (.ofNat (0xE0 + n / 0x1000))
        (.ofNat (0x80 + n / 0x40 % 0x40) :: .ofNat (0x80 + n / 1 % 0x40) :: bs) =
      (some (Char.ofNat n), bs) := by
  have hcode : ((0xE0 + n / 0x1000) % leadValues 2 * 0x40 + n / 0x40 % 0x40) * 0x40 +
      n / 1 % 0x40 = n := by
    show ((0xE0 + n / 0x1000) % 0x10 * 0x40 + n / 0x40 % 0x40) * 0x40 + n / 1 % 0x40 = n
    omega
  rw [next_of_lead (by omega) (by omega) (lead?_three (by omega) (by omega)),
    follow_succ (by omega), follow_tail (by omega), follow, hcode]
  · rfl
  · split
    · show 0xA0 ≤ _
      omega
    · exact Nat.le_add_right _ _
  · split
    · show _ ≤ 0x9F
      omega
    · show _ ≤ 0xBF
      omega

/-- The bounds of the second byte leave out overlong forms and what is beyond the last code. -/
theorem next_four (h : 0x10000 ≤ n) (h' : n < 0x110000) :
    next (.ofNat (0xF0 + n / 0x40000)) (.ofNat (0x80 + n / 0x1000 % 0x40) ::
        .ofNat (0x80 + n / 0x40 % 0x40) :: .ofNat (0x80 + n / 1 % 0x40) :: bs) =
      (some (Char.ofNat n), bs) := by
  have hcode : (((0xF0 + n / 0x40000) % leadValues 3 * 0x40 + n / 0x1000 % 0x40) * 0x40 +
      n / 0x40 % 0x40) * 0x40 + n / 1 % 0x40 = n := by
    show (((0xF0 + n / 0x40000) % 8 * 0x40 + n / 0x1000 % 0x40) * 0x40 +
      n / 0x40 % 0x40) * 0x40 + n / 1 % 0x40 = n
    omega
  rw [next_of_lead (by omega) (by omega) (lead?_four (by omega) (by omega)),
    follow_succ (by omega), follow_tail (by omega), follow_tail (by omega), follow, hcode]
  · rfl
  · split
    · show 0x90 ≤ _
      omega
    · exact Nat.le_add_right _ _
  · split
    · show _ ≤ 0x8F
      omega
    · show _ ≤ 0xBF
      omega

/-! ## Characters -/

theorem code_valid (c : Char) : c.toNat < 0xD800 ∨ (0xDFFF < c.toNat ∧ c.toNat < 0x110000) :=
  c.valid

theorem next_encodeChar (c : Char) (bs : List UInt8) :
    ∃ b tail, encodeChar c = b :: tail ∧ next b (tail ++ bs) = (some c, bs) := by
  have hvalid := code_valid c
  have hc : Char.ofNat c.toNat = c := Char.ofNat_toNat c
  unfold encodeChar
  generalize c.toNat = n at hvalid hc
  subst hc
  by_cases h₁ : n < 0x80
  · exact ⟨_, _, if_pos h₁, next_one h₁⟩
  simp only [if_neg h₁]
  by_cases h₂ : n < 0x800
  · exact ⟨_, _, if_pos h₂, next_two (by omega) h₂⟩
  simp only [if_neg h₂]
  by_cases h₃ : n < 0x10000
  · exact ⟨_, _, if_pos h₃, next_three (by omega) h₃ (by omega)⟩
  · exact ⟨_, _, if_neg h₃, next_four (by omega) (by omega)⟩

/-- The bytes of characters are read as these characters. -/
theorem decodeLossy_encode (cs : List Char) : decodeLossy (encode cs) = cs := by
  induction cs with
  | nil => simp [encode, decodeLossy]
  | cons c cs ih =>
    obtain ⟨b, tail, hc, hnext⟩ := next_encodeChar c (encode cs)
    have hencode : encode (c :: cs) = b :: (tail ++ encode cs) := by
      rw [encode, List.flatMap_cons, hc]
      rfl
    rw [hencode, decodeLossy, hnext, ih]
    rfl

end PathRoute.Utf8
