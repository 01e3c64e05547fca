/-!
# Content fingerprints

A 64-bit fingerprint of a text that depends on its UTF-8 bytes alone. The bytes
are read as little-endian words of eight bytes, the rest of fewer than eight as
one word each of four, two and one bytes where they fit, and every word is mixed
into the fingerprint by a rotation, an exclusive or and a multiplication.
-/

namespace LineLexer.Text

/-- The little-endian value of a few bytes. -/
def littleEndian (bytes : List UInt8) : UInt64 :=
  bytes.foldr (fun byte word => word <<< 8 ||| byte.toUInt64) 0

/-- At most one byte left. -/
def lastByte : List UInt8 → List UInt64
  | [] => []
  | bytes => [littleEndian (bytes.take 1)]

/-- Fewer than four bytes left. -/
def lastPair (bytes : List UInt8) : List UInt64 :=
  if 2 ≤ bytes.length then littleEndian (bytes.take 2) :: lastByte (bytes.drop 2)
  else lastByte bytes

/-- Fewer than eight bytes left. -/
def lastFour (bytes : List UInt8) : List UInt64 :=
  if 4 ≤ bytes.length then littleEndian (bytes.take 4) :: lastPair (bytes.drop 4)
  else lastPair bytes

/-- The words that a run of bytes is read as. -/
def words : List UInt8 → List UInt64
  | a :: b :: c :: d :: e :: f :: g :: h :: rest =>
    littleEndian [a, b, c, d, e, f, g, h] :: words rest
  | rest => lastFour rest

/-- Mixes one word into a fingerprint. -/
def mix (state word : UInt64) : UInt64 :=
  ((state <<< 5 ||| state >>> 59) ^^^ word) * 0x517cc1b727220a95

/-- The fingerprint of a text. -/
def fingerprint (text : String) : UInt64 :=
  (words text.toUTF8.toList).foldl mix 0

end LineLexer.Text
