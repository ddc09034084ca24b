import PathRoute.Form
import PathRoute.Proofs.Text.Utf8

/-!
# Reading form encoding back

What is written for pairs is read as these pairs: `decode_encode`. The signs between names, values
and pairs stand in no written name or value, so each level is read back apart from the others.
-/

namespace PathRoute.Form

/-! ## Bytes -/

/-- The bytes that are written for a byte. -/
def written (b : UInt8) : List UInt8 := Utf8.encode (encodeByte b)

/-- What holds of the bytes with numbers below 256 holds of all. -/
theorem forall_byte {p : UInt8 → Prop} (h : ∀ n < 256, p (.ofNat n)) (b : UInt8) : p b := by
  have hb := h b.toNat b.toNat_lt
  rwa [UInt8.ofNat_toNat] at hb

/-- The byte of a digit. -/
def digitByte (n : Nat) : UInt8 := .ofNat (hexDigit n).toNat

theorem digit?_digitByte {n : Nat} (h : n < 16) : digit? (digitByte n) = some n := by
  have hall : ∀ n < 16, digit? (digitByte n) = some n := by decide +kernel
  exact hall n h

/-- A byte is written as itself, as a plus, or as its two digits. -/
theorem written_cases (b : UInt8) :
    (written b = [b] ∧ b ≠ 0x25 ∧ b ≠ 0x2B) ∨ (written b = [0x2B] ∧ b = 0x20) ∨
      written b = [0x25, digitByte (b.toNat / 16), digitByte (b.toNat % 16)] := by
  revert b
  apply forall_byte
  decide +kernel

/-- The signs between names, values and pairs are never written for a byte. -/
theorem not_mem_written (b : UInt8) : 0x26 ∉ written b ∧ 0x3D ∉ written b := by
  revert b
  apply forall_byte
  decide +kernel

theorem unescape_written (b : UInt8) (bs : List UInt8) :
    unescape (written b ++ bs) = b :: unescape bs := by
  rcases written_cases b with ⟨h, h₁, h₂⟩ | ⟨h, rfl⟩ | h
  · rw [h, List.singleton_append, unescape]
    · exact fun _ _ _ hb _ => h₁ hb
    · exact h₂
  · rw [h, List.singleton_append, unescape]
  · have hlt := b.toNat_lt
    have hb : UInt8.ofNat (16 * (b.toNat / 16) + b.toNat % 16) = b := by
      rw [Nat.div_add_mod, UInt8.ofNat_toNat]
    rw [h, List.cons_append, List.cons_append, List.singleton_append, unescape,
      digit?_digitByte (by omega), digit?_digitByte (by omega)]
    simp only [hb]

/-! ## Names and values -/

/-- The bytes that are written for a name or a value. -/
theorem encode_encodeText (cs : List Char) :
    Utf8.encode (encodeText cs) = (Utf8.encode cs).flatMap written := List.flatMap_assoc

theorem unescape_flatMap (bs : List UInt8) : unescape (bs.flatMap written) = bs := by
  induction bs with
  | nil => rfl
  | cons b bs ih => rw [List.flatMap_cons, unescape_written, ih]

theorem decodeText_encodeText (text : String) :
    decodeText (Utf8.encode (encodeText text.toList)) = text := by
  rw [decodeText, encode_encodeText, unescape_flatMap, Utf8.decodeLossy_encode,
    String.ofList_toList]

theorem not_mem_encodeText (cs : List Char) :
    0x26 ∉ Utf8.encode (encodeText cs) ∧ 0x3D ∉ Utf8.encode (encodeText cs) := by
  rw [encode_encodeText]
  simp only [List.mem_flatMap, not_exists, not_and]
  exact ⟨fun b _ => (not_mem_written b).1, fun b _ => (not_mem_written b).2⟩

/-! ## Pairs -/

/-- The bytes that are written for a pair. -/
def pairBytes (pair : String × String) : List UInt8 :=
  Utf8.encode (encodeText pair.1.toList) ++ 0x3D :: Utf8.encode (encodeText pair.2.toList)

theorem decodePair_pairBytes (pair : String × String) : decodePair (pairBytes pair) = pair := by
  have hne : ∀ b ∈ Utf8.encode (encodeText pair.1.toList), (b != 0x3D) = true := by
    intro b hb
    rw [bne_iff_ne]
    rintro rfl
    exact (not_mem_encodeText _).2 hb
  simp only [decodePair, splitAtByte, pairBytes, List.takeWhile_append_of_pos hne,
    List.dropWhile_append_of_pos hne, List.takeWhile_cons_of_neg, List.dropWhile_cons_of_neg,
    bne_self_eq_false, Bool.false_eq_true, not_false_eq_true, List.append_nil, List.drop_one,
    List.tail_cons, decodeText_encodeText]

theorem not_mem_pairBytes (pair : String × String) : 0x26 ∉ pairBytes pair := by
  rw [pairBytes, List.mem_append, List.mem_cons]
  rintro (h | h | h)
  · exact (not_mem_encodeText _).1 h
  · cases h
  · exact (not_mem_encodeText _).1 h

/-! ## Lists of pairs -/

/-- What stands before a piece without an ampersand in it belongs to the piece. -/
theorem go_append_of_eq {bs rest first : List UInt8} {more : List (List UInt8)} (h : 0x26 ∉ bs)
    (hrest : pieces.go rest = first :: more) : pieces.go (bs ++ rest) = (bs ++ first) :: more := by
  induction bs with
  | nil => exact hrest
  | cons b bs ih =>
    rw [List.mem_cons, not_or] at h
    have hb : (b == 0x26) = false := beq_eq_false_iff_ne.mpr (Ne.symm h.1)
    rw [List.cons_append, pieces.go, hb, ih h.2]
    rfl

theorem go_of_not_mem {bs : List UInt8} (h : 0x26 ∉ bs) : pieces.go bs = [bs] := by
  have hnil : pieces.go [] = [[]] := rfl
  simpa using go_append_of_eq h hnil

theorem go_append {bs rest : List UInt8} (h : 0x26 ∉ bs) :
    pieces.go (bs ++ 0x26 :: rest) = bs :: pieces.go rest := by
  have hamp : pieces.go (0x26 :: rest) = [] :: pieces.go rest := rfl
  simpa using go_append_of_eq h hamp

theorem encode_append (cs ds : List Char) :
    Utf8.encode (cs ++ ds) = Utf8.encode cs ++ Utf8.encode ds := List.flatMap_append

theorem encode_pair (pair : String × String) :
    Utf8.encode (encodeText pair.1.toList ++ '=' :: encodeText pair.2.toList) = pairBytes pair := by
  rw [encode_append]
  rfl

theorem go_encode (pair : String × String) (pairs : List (String × String)) :
    pieces.go (Utf8.encode (encode (pair :: pairs))) = (pair :: pairs).map pairBytes := by
  induction pairs generalizing pair with
  | nil =>
    rw [encode, encode_pair]
    exact go_of_not_mem (not_mem_pairBytes pair)
  | cons next pairs ih =>
    have hsplit : encode (pair :: next :: pairs) =
        (encodeText pair.1.toList ++ '=' :: encodeText pair.2.toList) ++
          '&' :: encode (next :: pairs) := by
      simp [encode]
    have hamp : Utf8.encode ('&' :: encode (next :: pairs)) =
        0x26 :: Utf8.encode (encode (next :: pairs)) := rfl
    rw [hsplit, encode_append, encode_pair, hamp, go_append (not_mem_pairBytes pair), ih,
      List.map_cons, List.map_cons, List.map_cons]

/-- What is written for pairs is read as these pairs. -/
theorem decode_encode (pairs : List (String × String)) :
    decode (.ofList (encode pairs)) = pairs := by
  cases pairs with
  | nil => rfl
  | cons pair pairs =>
    rw [decode, String.toList_ofList, pieces, go_encode, List.filter_eq_self.mpr, List.map_map]
    · have hid : decodePair ∘ pairBytes = id := funext decodePair_pairBytes
      rw [hid, List.map_id]
    · intro bs hbs
      obtain ⟨p, -, rfl⟩ := List.mem_map.mp hbs
      simp [pairBytes]

/-- So are the entries that they stand for. -/
theorem parse_encode (pairs : List (String × String)) :
    parse (.ofList (encode pairs)) = .ofList pairs := by
  rw [parse, decode_encode]

/-! ## Signs of URLs -/

theorem not_mem_encodeByte (b : UInt8) : '?' ∉ encodeByte b ∧ '#' ∉ encodeByte b := by
  revert b
  apply forall_byte
  decide +kernel

/-- The signs at which a query begins and ends in a URL are not written for pairs. -/
theorem not_mem_encode (pairs : List (String × String)) :
    '?' ∉ encode pairs ∧ '#' ∉ encode pairs := by
  have htext (cs : List Char) : '?' ∉ encodeText cs ∧ '#' ∉ encodeText cs := by
    simp [encodeText, List.mem_flatMap, not_mem_encodeByte]
  fun_induction encode pairs with
  | case1 => simp
  | case2 => simp [htext]
  | case3 _ _ _ _ ih => simp [htext, ih]

end PathRoute.Form
