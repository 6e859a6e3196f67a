import ConnectedDevice.Codec.Varint

/-!
Numbers are read back from their groups of seven bits, with nothing of what follows them consumed.
What a reader accepts is written in no more bytes than it may take.
-/

namespace ConnectedDevice.Varint

/-- One more than the greatest number that a reader of these bounds accepts. -/
def capacity (top : Nat) : Nat → Nat
  | 0 => 0
  | 1 => top + 1
  | limit + 2 => 128 * capacity top (limit + 1)

theorem encode_of_lt {n : Nat} (small : n < 128) : encode n = [n.toUInt8] := by
  rw [encode, if_pos small]

theorem encode_of_le {n : Nat} (large : 128 ≤ n) :
    encode n = (n % 128 + 128).toUInt8 :: encode (n / 128) := by
  rw [encode, if_neg (by omega)]

theorem decode_encode (top limit n : Nat) (rest : Bytes) (narrow : top < 128)
    (fits : n < capacity top limit) : decode top limit (encode n ++ rest) = some (n, rest) := by
  induction limit generalizing n with
  | zero => exact absurd fits (Nat.not_lt_zero n)
  | succ limit ih =>
      by_cases small : n < 128
      · have inTop : ¬(limit = 0 ∧ top < n) := by
          rintro ⟨rfl, above⟩
          exact absurd fits (by simp only [capacity]; omega)
        have byte : n.toUInt8.toNat = n := UInt8.toNat_ofNat_of_lt' (show _ < 256 by omega)
        simp only [encode_of_lt small, List.cons_append, List.nil_append, decode, byte,
          if_pos small, if_neg inTop]
      · cases limit with
        | zero => exact absurd fits (by simp only [capacity]; omega)
        | succ limit =>
            have high : n / 128 < capacity top (limit + 1) := by
              simp only [capacity] at fits
              omega
            have byte : (n % 128 + 128).toUInt8.toNat = n % 128 + 128 :=
              UInt8.toNat_ofNat_of_lt' (show _ < 256 by omega)
            have continues : ¬n % 128 + 128 < 128 := by omega
            simp only [encode_of_le (Nat.le_of_not_lt small), List.cons_append, decode, byte,
              if_neg continues, ih (n / 128) high]
            have : n % 128 + 128 - 128 + 128 * (n / 128) = n := by omega
            simp only [this]

theorem length_encode_pos (n : Nat) : 0 < (encode n).length := by
  rw [encode]
  split <;> simp

theorem length_encode_le (top limit n : Nat) (narrow : top < 128) (fits : n < capacity top limit) :
    (encode n).length ≤ limit := by
  induction limit generalizing n with
  | zero => exact absurd fits (Nat.not_lt_zero n)
  | succ limit ih =>
      by_cases small : n < 128
      · simp [encode_of_lt small]
      · cases limit with
        | zero => exact absurd fits (by simp only [capacity]; omega)
        | succ limit =>
            have high : n / 128 < capacity top (limit + 1) := by
              simp only [capacity] at fits
              omega
            rw [encode_of_le (Nat.le_of_not_lt small), List.length_cons]
            exact Nat.succ_le_succ (ih (n / 128) high)

theorem decode16_encode (w : UInt16) (rest : Bytes) :
    decode16 (encode w.toNat ++ rest) = some (w.toNat, rest) :=
  decode_encode 3 3 w.toNat rest (by decide) w.toNat_lt

theorem decode32_encode (w : UInt32) (rest : Bytes) :
    decode32 (encode w.toNat ++ rest) = some (w.toNat, rest) :=
  decode_encode 15 5 w.toNat rest (by decide) w.toNat_lt

theorem decode64_encode {n : Nat} (fits : n < UInt64.size) (rest : Bytes) :
    decode64 (encode n ++ rest) = some (n, rest) :=
  decode_encode 1 10 n rest (by decide) fits

end ConnectedDevice.Varint
