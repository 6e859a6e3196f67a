import ConnectedDevice.Bytes

/-!
Numbers as groups of seven bits, least significant group first, every byte but the last with its
high bit set. A reader is given the most bytes that a number may take and the greatest last byte of
a number that takes them all; it accepts numbers written with needless zero groups.
-/

namespace ConnectedDevice.Varint

def encode (n : Nat) : Bytes :=
  if n < 128 then [n.toUInt8] else (n % 128 + 128).toUInt8 :: encode (n / 128)
termination_by n
decreasing_by omega

/-- The number at the front and the bytes after it. `limit` is the number of bytes it may take, and
`top` bounds the byte that exhausts them. -/
def decode (top : Nat) : Nat → Bytes → Option (Nat × Bytes)
  | 0, _ => none
  | _, [] => none
  | limit + 1, b :: rest =>
    if b.toNat < 128 then
      if limit = 0 ∧ top < b.toNat then none else some (b.toNat, rest)
    else
      match decode top limit rest with
      | some (high, rest) => some (b.toNat - 128 + 128 * high, rest)
      | none => none

/-- Numbers below `2^16`. -/
def decode16 : Bytes → Option (Nat × Bytes) := decode 3 3

/-- Numbers below `2^32`. -/
def decode32 : Bytes → Option (Nat × Bytes) := decode 15 5

/-- Numbers below `2^64`. -/
def decode64 : Bytes → Option (Nat × Bytes) := decode 1 10

end ConnectedDevice.Varint
