import PathRoute.Text.Utf8
import Std.Data.ExtTreeMap

/-!
# Form encoding

Names and values as they stand in the query of a URL: pairs with ampersands between them, in which
letters, digits and a few signs stand for themselves, a plus stands for a space, and every other
byte is written as a percent sign and two hexadecimal digits.
-/

namespace PathRoute

/-- Named texts. -/
abbrev Entries := Std.ExtTreeMap String String

namespace Form

/-- The bytes that stand for themselves. -/
def isPlain (b : UInt8) : Bool :=
  (0x30 ≤ b && b ≤ 0x39) || (0x41 ≤ b && b ≤ 0x5A) || (0x61 ≤ b && b ≤ 0x7A) ||
    [0x2A, 0x2D, 0x2E, 0x5F].contains b

/-- The digit for a number below sixteen. -/
def hexDigit (n : Nat) : Char := if n < 10 then .ofNat (0x30 + n) else .ofNat (0x37 + n)

def encodeByte (b : UInt8) : List Char :=
  if isPlain b then [.ofNat b.toNat]
  else if b == 0x20 then ['+']
  else ['%', hexDigit (b.toNat / 16), hexDigit (b.toNat % 16)]

/-- A name or a value as it is written. -/
def encodeText (cs : List Char) : List Char := (Utf8.encode cs).flatMap encodeByte

/-- Pairs as they are written. -/
def encode : List (String × String) → List Char
  | [] => []
  | [(name, value)] => encodeText name.toList ++ '=' :: encodeText value.toList
  | (name, value) :: rest =>
    encodeText name.toList ++ '=' :: (encodeText value.toList ++ '&' :: encode rest)

/-- The value of the byte as a hexadecimal digit. -/
def digit? (b : UInt8) : Option Nat :=
  if 0x30 ≤ b && b ≤ 0x39 then some (b.toNat - 0x30)
  else if 0x41 ≤ b && b ≤ 0x46 then some (b.toNat - 0x37)
  else if 0x61 ≤ b && b ≤ 0x66 then some (b.toNat - 0x57)
  else none

/-- The bytes that written ones stand for. A percent sign without two digits stands for itself. -/
def unescape : List UInt8 → List UInt8
  | 0x25 :: a :: b :: bs =>
    match digit? a, digit? b with
    | some x, some y => .ofNat (16 * x + y) :: unescape bs
    | _, _ => 0x25 :: unescape (a :: b :: bs)
  | 0x2B :: bs => 0x20 :: unescape bs
  | b :: bs => b :: unescape bs
  | [] => []

/-- The name or value that written bytes stand for. -/
def decodeText (bs : List UInt8) : String := .ofList (Utf8.decodeLossy (unescape bs))

/-- The bytes before a separator and those after it. -/
def splitAtByte (sep : UInt8) (bs : List UInt8) : List UInt8 × List UInt8 :=
  (bs.takeWhile (· != sep), (bs.dropWhile (· != sep)).drop 1)

/-- The stretches of bytes between ampersands that are not empty. -/
def pieces (bs : List UInt8) : List (List UInt8) :=
  (go bs).filter (!·.isEmpty)
where
  go : List UInt8 → List (List UInt8)
    | [] => [[]]
    | b :: bs =>
      if b == 0x26 then [] :: go bs
      else match go bs with
        | [] => [[b]]
        | p :: ps => (b :: p) :: ps

/-- The pair that a written stretch stands for. Without an equals sign the value is empty. -/
def decodePair (bs : List UInt8) : String × String :=
  let (name, value) := splitAtByte 0x3D bs
  (decodeText name, decodeText value)

/-- The pairs of a written query, in order. -/
def decode (query : String) : List (String × String) :=
  (pieces (Utf8.encode query.toList)).map decodePair

/-- The entries of a written query. Of pairs with one name the last counts. -/
def parse (query : String) : Entries := .ofList (decode query)

end Form

end PathRoute
