/-!
# UTF-8

Characters as bytes, and bytes as characters. Bytes that are no character are either refused or
replaced, as many of them at once as begin some character.
-/

namespace PathRoute.Utf8

/-- The bytes of a character. -/
def encodeChar (c : Char) : List UInt8 :=
  let n := c.toNat
  let tail (unit : Nat) : UInt8 := .ofNat (0x80 + n / unit % 0x40)
  if n < 0x80 then [.ofNat n]
  else if n < 0x800 then [.ofNat (0xC0 + n / 0x40), tail 1]
  else if n < 0x10000 then [.ofNat (0xE0 + n / 0x1000), tail 0x40, tail 1]
  else [.ofNat (0xF0 + n / 0x40000), tail 0x1000, tail 0x40, tail 1]

def encode (cs : List Char) : List UInt8 := cs.flatMap encodeChar

/-- How many bytes follow a first byte, and the bounds of the next one. Other bytes begin
nothing. -/
def lead? (b : UInt8) : Option (Nat × UInt8 × UInt8) :=
  if 0xC2 ≤ b && b ≤ 0xDF then some (1, 0x80, 0xBF)
  else if b == 0xE0 then some (2, 0xA0, 0xBF)
  else if b == 0xED then some (2, 0x80, 0x9F)
  else if 0xE1 ≤ b && b ≤ 0xEF then some (2, 0x80, 0xBF)
  else if b == 0xF0 then some (3, 0x90, 0xBF)
  else if b == 0xF4 then some (3, 0x80, 0x8F)
  else if 0xF1 ≤ b && b ≤ 0xF3 then some (3, 0x80, 0xBF)
  else none

/-- How many values the bits of a first byte have that belong to the code. -/
def leadValues (count : Nat) : Nat := if count = 1 then 0x20 else if count = 2 then 0x10 else 8

/-- The bytes that still belong to a character, whose code so far is `code`: `count` of them, the
next one between bounds. The answer is the code, unless a byte does not fit, and the rest. -/
def follow : (count : Nat) → (lo hi : UInt8) → (code : Nat) → List UInt8 → Option Nat × List UInt8
  | 0, _, _, code, bs => (some code, bs)
  | _ + 1, _, _, _, [] => (none, [])
  | n + 1, lo, hi, code, b :: bs =>
    if lo ≤ b && b ≤ hi then follow n 0x80 0xBF (code * 0x40 + b.toNat % 0x40) bs
    else (none, b :: bs)

theorem length_follow (n : Nat) (lo hi : UInt8) (code : Nat) (bs : List UInt8) :
    (follow n lo hi code bs).2.length ≤ bs.length := by
  induction bs generalizing n lo hi code with
  | nil => cases n <;> simp [follow]
  | cons b bs ih =>
    cases n with
    | zero => simp [follow]
    | succ n =>
      simp only [follow]
      split
      · exact Nat.le_succ_of_le (ih ..)
      · simp

/-- The character that starts with a byte, if it is whole, and the bytes after what was read. -/
def next (b : UInt8) (bs : List UInt8) : Option Char × List UInt8 :=
  if b < 0x80 then (some (.ofNat b.toNat), bs)
  else match lead? b with
    | none => (none, bs)
    | some (n, lo, hi) =>
      let (code, rest) := follow n lo hi (b.toNat % leadValues n) bs
      (code.map Char.ofNat, rest)

theorem length_next (b : UInt8) (bs : List UInt8) : (next b bs).2.length ≤ bs.length := by
  unfold next
  split
  · simp
  · split
    · simp
    · exact length_follow ..

/-- The characters of bytes, with the replacement character for what is no character. -/
def decodeLossy : List UInt8 → List Char
  | [] => []
  | b :: bs => (next b bs).1.getD '\uFFFD' :: decodeLossy (next b bs).2
termination_by bs => bs.length
decreasing_by exact Nat.lt_succ_of_le (length_next b bs)

/-- The characters of bytes that are text. -/
def decode? : List UInt8 → Option (List Char)
  | [] => some []
  | b :: bs =>
    match (next b bs).1 with
    | none => none
    | some c => (decode? (next b bs).2).map (c :: ·)
termination_by bs => bs.length
decreasing_by exact Nat.lt_succ_of_le (length_next b bs)

end PathRoute.Utf8
