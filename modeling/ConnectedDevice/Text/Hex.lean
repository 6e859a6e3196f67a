/-!
Bytes as two hexadecimal digits, in both cases of the letters.
-/

namespace ConnectedDevice.Hex

def lowerDigit (n : Nat) : Char :=
  if n < 10 then Char.ofNat (48 + n) else Char.ofNat (87 + n)

def upperDigit (n : Nat) : Char :=
  if n < 10 then Char.ofNat (48 + n) else Char.ofNat (55 + n)

def lower (b : UInt8) : List Char := [lowerDigit (b.toNat / 16), lowerDigit (b.toNat % 16)]

def upper (b : UInt8) : List Char := [upperDigit (b.toNat / 16), upperDigit (b.toNat % 16)]

/-- The value of a digit in either case. -/
def value? (b : UInt8) : Option Nat :=
  if 48 ≤ b ∧ b ≤ 57 then some (b.toNat - 48)
  else if 65 ≤ b ∧ b ≤ 70 then some (b.toNat - 55)
  else if 97 ≤ b ∧ b ≤ 102 then some (b.toNat - 87)
  else none

/-- The bytes written by pairs of digits. Anything else than a digit counts as zero, and a digit
without a partner as nothing. -/
def decode : List Char → List UInt8
  | a :: b :: rest =>
    let digit (c : Char) : Nat := (value? c.toNat.toUInt8).getD 0
    (digit a * 16 + digit b).toUInt8 :: decode rest
  | _ => []

/-- The number written by four digits, most significant first. -/
def value4? (a b c d : UInt8) : Option Nat := do
  let a ← value? a
  let b ← value? b
  let c ← value? c
  let d ← value? d
  return ((a * 16 + b) * 16 + c) * 16 + d

end ConnectedDevice.Hex
