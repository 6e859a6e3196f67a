import ConnectedDevice.Bytes

/-!
Texts cut to a limit in bytes of their UTF-8 form. A cut falls between two characters, and is looked
for from the limit backwards.
-/

namespace ConnectedDevice.Text

/-- The bytes from `0x80` to `0xBF` continue a character. All others begin one. -/
def continues (b : UInt8) : Bool := 0x80 ≤ b && b < 0xC0

/-- Byte `n` of a UTF-8 form is where a character begins, or the form itself begins or ends. -/
def isBoundary (utf8 : Bytes) (n : Nat) : Bool :=
  n == 0 ||
    match utf8[n]? with
    | some b => !continues b
    | none => n == utf8.length

/-- The first boundary from `n` backwards. The search fails if it passes the front. -/
def boundaryBefore? (utf8 : Bytes) : Nat → Option Nat
  | 0 => if isBoundary utf8 0 then some 0 else none
  | n + 1 => if isBoundary utf8 (n + 1) then some (n + 1) else boundaryBefore? utf8 n

/-- The text cut to `limit` bytes. It fails without a boundary to cut at, and where the bytes in
front of the cut are no text. -/
def limited? (limit : Nat) (s : String) : Option String :=
  if s.utf8ByteSize ≤ limit then some s
  else do
    let utf8 := s.toUTF8.data.toList
    let n ← boundaryBefore? utf8 limit
    String.fromUTF8? (ByteArray.mk (utf8.take n).toArray)

def limited (limit : Nat) (s : String) : String := (limited? limit s).getD ""

end ConnectedDevice.Text
