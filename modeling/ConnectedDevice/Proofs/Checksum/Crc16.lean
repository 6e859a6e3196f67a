import ConnectedDevice.Checksum.Crc16
import Mathlib.Algebra.Ring.Nat
import Mathlib.Logic.Function.Iterate

/-!
The checksum of firmware images and the one that the bootloader verifies. Fed in chunks, it is that
of all bytes, whatever the chunks are. The bootloader works bit by bit on a register that takes the
data at its lower end; the remainder here takes them at the upper end, sixteen shifts ahead, and the
two zero bytes that the bootloader appends make up for that.
-/

namespace ConnectedDevice

/-! The bootloader -/

namespace Bootloader

/-- The register takes the next bit of the input, and is reduced. -/
def turn (register input : UInt32) : UInt32 :=
  let register := register <<< 1
  let register := if input &&& 0x100 ≠ 0 then register + 1 else register
  if register &&& 0x10000 ≠ 0 then register ^^^ 0x1021 else register

/-- Turns until the mark above the input has moved up by a byte. There is no end if no bit of the
input is left before. -/
def takeBits (register input : UInt32) : Nat → Option UInt32
  | 0 => none
  | left + 1 =>
    let input := input <<< 1
    let register := turn register input
    if input &&& 0x10000 ≠ 0 then some register else takeBits register input left

def takeByte (register : UInt32) (b : UInt8) : Option UInt32 :=
  (takeBits register (b.toUInt32 ||| 0x100) 32).map (· &&& 0xFFFF)

/-- The checksum of the data, if the loop ends for all bytes of them. -/
def checksum? (data : Bytes) : Option UInt16 :=
  ((data ++ [0, 0]).foldlM takeByte (0 : UInt32)).map UInt32.toUInt16

end Bootloader

/-! Bits of words -/

section Bits

variable {w : Nat} (x : BitVec w)

theorem getLsbD_shiftLeft_one {i : Nat} (inside : i < w) :
    (x <<< 1).getLsbD i = (decide (0 < i) && x.getLsbD (i - 1)) := by
  rw [BitVec.getLsbD_shiftLeft, decide_eq_true inside, Bool.true_and]
  cases i with
  | zero => rfl
  | succ i =>
      simp only [Nat.succ_pos, decide_true, Nat.add_sub_cancel]
      simp

theorem and_twoPow_ne_zero (n : Nat) : x &&& BitVec.twoPow w n ≠ 0#w ↔ x.getLsbD n = true := by
  rw [BitVec.and_twoPow]
  cases set : x.getLsbD n with
  | false => simp
  | true =>
      have inside := BitVec.lt_of_getLsbD set
      simp only [if_true, iff_true]
      intro zero
      simpa [inside] using congrArg (·.getLsbD n) zero

end Bits

/-! The remainder -/

namespace Crc16

theorem update_crc16 (data chunk : Bytes) :
    Crc16.update ⟨crc16 data, data.length⟩ chunk =
      ⟨crc16 (data ++ chunk), (data ++ chunk).length⟩ := by
  simp [Crc16.update, crc16, List.foldl_append]

theorem foldl_update (data : Bytes) (chunks : List Bytes) :
    chunks.foldl update ⟨crc16 data, data.length⟩ =
      ⟨crc16 (data ++ chunks.flatten), (data ++ chunks.flatten).length⟩ := by
  induction chunks generalizing data with
  | nil => simp
  | cons chunk chunks ih =>
      rw [List.foldl_cons, update_crc16, ih, List.flatten_cons, List.append_assoc]

theorem and_top_ne_zero (r : UInt16) : r &&& 0x8000 ≠ 0 ↔ r.toBitVec.getLsbD 15 = true := by
  rw [← and_twoPow_ne_zero, ne_eq, ← UInt16.toBitVec_inj]
  rfl

theorem getLsbD_shift (r : UInt16) {i : Nat} (inside : i < 16) :
    (shift r).toBitVec.getLsbD i =
      ((decide (0 < i) && r.toBitVec.getLsbD (i - 1)) ^^
        (r.toBitVec.getLsbD 15 && (0x1021#16).getLsbD i)) := by
  have up : (r <<< 1).toBitVec.getLsbD i = (decide (0 < i) && r.toBitVec.getLsbD (i - 1)) :=
    getLsbD_shiftLeft_one r.toBitVec inside
  unfold shift
  split
  next set =>
    rw [UInt16.toBitVec_xor, BitVec.getLsbD_xor, up, (and_top_ne_zero r).mp set, Bool.true_and]
    rfl
  next unset =>
    have clear : r.toBitVec.getLsbD 15 = false := by simpa [and_top_ne_zero] using unset
    rw [up, clear, Bool.false_and, Bool.xor_false]

theorem shift_xor (r s : UInt16) : shift (r ^^^ s) = shift r ^^^ shift s := by
  refine UInt16.eq_of_toBitVec_eq (BitVec.eq_of_getLsbD_eq fun i inside => ?_)
  simp only [UInt16.toBitVec_xor, BitVec.getLsbD_xor, getLsbD_shift _ inside]
  cases decide (0 < i) <;> cases r.toBitVec.getLsbD 15 <;> cases s.toBitVec.getLsbD 15 <;>
    cases (0x1021#16).getLsbD i <;> simp

theorem iterate_shift_xor (n : Nat) (r s : UInt16) :
    shift^[n] (r ^^^ s) = shift^[n] r ^^^ shift^[n] s := by
  induction n generalizing r s with
  | zero => rfl
  | succ n ih => simp only [Function.iterate_succ_apply, shift_xor, ih]

/-- A byte only moves up, as long as it does not reach beyond the top. -/
theorem getLsbD_iterate_shift_byte (b : UInt8) {n : Nat} (most : n ≤ 8) : ∀ i < 16,
    (shift^[n] b.toUInt16).toBitVec.getLsbD i =
      (decide (n ≤ i) && b.toBitVec.getLsbD (i - n)) := by
  induction n with
  | zero =>
      intro i inside
      change (b.toBitVec.setWidth 16).getLsbD i = _
      simp [inside]
  | succ n ih =>
      intro i inside
      have below := ih (by omega)
      have top : (shift^[n] b.toUInt16).toBitVec.getLsbD 15 = false := by
        rw [below 15 (by decide), BitVec.getLsbD_of_ge _ _ (by omega), Bool.and_false]
      rw [Function.iterate_succ_apply', getLsbD_shift _ inside, top, Bool.false_and,
        Bool.xor_false]
      cases i with
      | zero => simp
      | succ i => simp [below i (by omega)]

theorem iterate_shift_byte (b : UInt8) : shift^[8] b.toUInt16 = b.toUInt16 <<< 8 := by
  refine UInt16.eq_of_toBitVec_eq (BitVec.eq_of_getLsbD_eq fun i inside => ?_)
  rw [getLsbD_iterate_shift_byte b (Nat.le_refl 8) i inside]
  change _ = (b.toBitVec.setWidth 16 <<< 8).getLsbD i
  rw [BitVec.getLsbD_shiftLeft, BitVec.getLsbD_setWidth]
  by_cases low : i < 8
  · simp [low, Nat.not_le.mpr low]
  · simp [low, inside, Nat.le_of_not_lt low, show i - 8 < 16 by omega]

end Crc16

/-! A byte in the bootloader -/

namespace Bootloader

/-- What a byte makes of the lower half of the register. -/
def late (r : UInt16) (b : UInt8) : UInt16 := Crc16.shift^[8] r ^^^ b.toUInt16

section Turn

variable (x : UInt32)

theorem and_power_ne_zero {power : UInt32} {n : Nat} (only : power.toBitVec = .twoPow 32 n) :
    x &&& power ≠ 0 ↔ x.toBitVec.getLsbD n = true := by
  rw [← and_twoPow_ne_zero, ne_eq, ← UInt32.toBitVec_inj, ← only]
  rfl

/-- After a shift the lowest bit is free. -/
theorem getLsbD_shiftLeft_add_one {i : Nat} (inside : i < 32) :
    (x <<< 1 + 1).toBitVec.getLsbD i = if i = 0 then true else x.toBitVec.getLsbD (i - 1) := by
  have sum : x.toBitVec <<< 1 + 1#32 = x.toBitVec <<< 1 ||| 1#32 := by
    refine BitVec.add_eq_or_of_and_eq_zero _ _ (BitVec.eq_of_getLsbD_eq fun i _ => ?_)
    cases i <;> simp
  have added : (x <<< 1 + 1).toBitVec = x.toBitVec <<< 1 + 1#32 := rfl
  rw [added, sum, BitVec.getLsbD_or, getLsbD_shiftLeft_one _ inside]
  cases i <;> simp

theorem getLsbD_turn (register input : UInt32) {i : Nat} (inside : i < 16) :
    (turn register input).toBitVec.getLsbD i =
      ((if i = 0 then input.toBitVec.getLsbD 8 else register.toBitVec.getLsbD (i - 1)) ^^
        (register.toBitVec.getLsbD 15 && (0x1021#16).getLsbD i)) := by
  let filled := if input &&& 0x100 ≠ 0 then register <<< 1 + 1 else register <<< 1
  have eighth : (0x100 : UInt32).toBitVec = .twoPow 32 8 := by decide
  have sixteenth : (0x10000 : UInt32).toBitVec = .twoPow 32 16 := by decide
  have bits {j : Nat} (below : j < 32) : filled.toBitVec.getLsbD j =
      if j = 0 then input.toBitVec.getLsbD 8 else register.toBitVec.getLsbD (j - 1) := by
    simp only [filled, and_power_ne_zero input eighth]
    cases set : input.toBitVec.getLsbD 8 with
    | true => simpa using getLsbD_shiftLeft_add_one register below
    | false =>
        have shifted : (register <<< 1).toBitVec.getLsbD j = _ :=
          getLsbD_shiftLeft_one register.toBitVec below
        simp only [Bool.false_eq_true, if_false, shifted]
        cases j <;> simp
  have top : filled.toBitVec.getLsbD 16 = register.toBitVec.getLsbD 15 := bits (by decide)
  have generator : ∀ i < 16, (0x1021 : UInt32).toBitVec.getLsbD i = (0x1021#16).getLsbD i := by
    decide
  have turned : turn register input =
      if filled &&& 0x10000 ≠ 0 then filled ^^^ 0x1021 else filled := rfl
  simp only [turned, and_power_ne_zero filled sixteenth, top]
  rw [← bits (by omega), ← generator i inside]
  cases register.toBitVec.getLsbD 15 <;> simp

end Turn

/-- How far the loop is with a byte: `n` bits are still to come, and the mark is above them. -/
structure Taking (r : UInt16) (b : UInt8) (n : Nat) (register input : UInt32) : Prop where
  register : ∀ i < 16, register.toBitVec.getLsbD i =
    ((Crc16.shift^[8 - n] r).toBitVec.getLsbD i ^^ b.toBitVec.getLsbD (i + n))
  input : ∀ i, i + (8 - n) < 32 →
    input.toBitVec.getLsbD (i + (8 - n)) = (b.toBitVec.getLsbD i || decide (i = 8))

variable {r : UInt16} {b : UInt8} {n : Nat} {register input : UInt32}

theorem Taking.start : Taking r b 8 r.toUInt32 (b.toUInt32 ||| 0x100) where
  register i inside := by
    have inside : i < 32 := by omega
    change (r.toBitVec.setWidth 32).getLsbD i = _
    simp [inside]
  input i inside := by
    have marked : (b.toUInt32 ||| 0x100).toBitVec = b.toBitVec.setWidth 32 ||| .twoPow 32 8 := rfl
    rw [marked, BitVec.getLsbD_or, BitVec.getLsbD_twoPow, BitVec.getLsbD_setWidth]
    have inside : i < 32 := by omega
    simp [inside, eq_comm]

theorem Taking.turn (taking : Taking r b (n + 1) register input) (most : n < 8) :
    Taking r b n (turn register (input <<< 1)) (input <<< 1) := by
  have moved : 8 - n = 8 - (n + 1) + 1 := by omega
  have shifted : ∀ i, i + (8 - n) < 32 → (input <<< 1).toBitVec.getLsbD (i + (8 - n)) =
      (b.toBitVec.getLsbD i || decide (i = 8)) := by
    intro i inside
    have up : (input <<< 1).toBitVec.getLsbD (i + (8 - n)) = _ :=
      getLsbD_shiftLeft_one input.toBitVec inside
    rw [up, decide_eq_true (by omega), Bool.true_and, moved]
    exact taking.input i (by omega)
  refine ⟨fun i inside => ?_, shifted⟩
  have next : (input <<< 1).toBitVec.getLsbD 8 = b.toBitVec.getLsbD n := by
    have place : n + (8 - n) = 8 := by omega
    simpa [place, show n ≠ 8 by omega] using shifted n (by omega)
  have beyond : b.toBitVec.getLsbD (15 + (n + 1)) = false := BitVec.getLsbD_of_ge _ _ (by omega)
  have top := taking.register 15 (by decide)
  rw [beyond, Bool.xor_false] at top
  rw [getLsbD_turn _ _ inside, next, top, moved, Function.iterate_succ_apply',
    Crc16.getLsbD_shift _ inside]
  cases i with
  | zero => simp [Bool.xor_comm]
  | succ i =>
      have low := taking.register i (by omega)
      rw [show i + (n + 1) = i + 1 + n by omega] at low
      rw [if_neg (by omega), Nat.add_sub_cancel, low]
      simp only [Nat.succ_pos, decide_true, Bool.true_and, Bool.xor_assoc, Bool.xor_comm]

theorem Taking.stops (taking : Taking r b n register input) (most : n ≤ 8) :
    input &&& 0x10000 ≠ 0 ↔ n = 0 := by
  have mark : (0x10000 : UInt32).toBitVec = .twoPow 32 16 := by decide
  have place : 8 + n + (8 - n) = 16 := by omega
  rw [and_power_ne_zero _ mark, ← place, taking.input (8 + n) (by omega),
    BitVec.getLsbD_of_ge _ _ (by omega)]
  simp

/-- The loop ends, and all bits of the byte were taken then. -/
theorem Taking.ends {left : Nat} (taking : Taking r b (n + 1) register input) (most : n < 8)
    (enough : n ≤ left) :
    ∃ last, takeBits register input (left + 1) = some last ∧ last.toUInt16 = late r b := by
  induction n generalizing register input left with
  | zero =>
      have turned := taking.turn most
      refine ⟨_, by rw [takeBits, if_pos ((turned.stops (by omega)).mpr rfl)], ?_⟩
      refine UInt16.eq_of_toBitVec_eq (BitVec.eq_of_getLsbD_eq fun i inside => ?_)
      have low (w : UInt32) : w.toUInt16.toBitVec.getLsbD i = w.toBitVec.getLsbD i := by
        change (w.toBitVec.setWidth 16).getLsbD i = _
        simp [inside]
      have byte : b.toUInt16.toBitVec.getLsbD i = b.toBitVec.getLsbD i := by
        change (b.toBitVec.setWidth 16).getLsbD i = _
        simp [inside]
      rw [low, turned.register i inside, late, UInt16.toBitVec_xor, BitVec.getLsbD_xor, byte]
      rfl
  | succ n ih =>
      have turned := taking.turn most
      obtain ⟨left, rfl⟩ := Nat.exists_eq_add_of_lt enough
      rw [takeBits, if_neg (by simp [turned.stops (by omega)])]
      exact ih turned (by omega) (by omega)

theorem takeByte_eq : takeByte r.toUInt32 b = some (late r b).toUInt32 := by
  obtain ⟨last, taken, same⟩ :=
    (Taking.start (r := r) (b := b)).ends (by decide) (show 7 ≤ 31 by decide)
  have low : last &&& 0xFFFF = last.toUInt16.toUInt32 := by
    refine UInt32.toNat_inj.mp ?_
    rw [UInt32.toNat_and, UInt16.toNat_toUInt32, UInt32.toNat_toUInt16]
    exact Nat.and_two_pow_sub_one_eq_mod last.toNat 16
  rw [takeByte, taken, Option.map_some, low, same]

theorem foldlM_takeByte (data : Bytes) :
    data.foldlM takeByte r.toUInt32 = some (data.foldl late r).toUInt32 := by
  induction data generalizing r with
  | nil => rfl
  | cons b data ih =>
      rw [List.foldlM_cons, takeByte_eq, List.foldl_cons]
      exact ih

/-- The remainder is the register after sixteen further shifts. -/
theorem feed_flushed (y : UInt16) (b : UInt8) :
    Crc16.feed (Crc16.shift^[16] y) b = Crc16.shift^[16] (late y b) := by
  calc Crc16.feed (Crc16.shift^[16] y) b
      = Crc16.shift^[8] (Crc16.shift^[8] (Crc16.shift^[8] y) ^^^ b.toUInt16 <<< 8) := rfl
    _ = Crc16.shift^[8] (Crc16.shift^[8] (late y b)) := by
        rw [← Crc16.iterate_shift_byte, ← Crc16.iterate_shift_xor, late]
    _ = Crc16.shift^[16] (late y b) := rfl

theorem foldl_feed_flushed (y : UInt16) (data : Bytes) :
    data.foldl Crc16.feed (Crc16.shift^[16] y) = Crc16.shift^[16] (data.foldl late y) := by
  induction data generalizing y with
  | nil => rfl
  | cons b data ih => rw [List.foldl_cons, feed_flushed, ih, List.foldl_cons]

/-- Two zero bytes shift the register sixteen times. -/
theorem foldl_late_flush (data : Bytes) : (data ++ [0, 0]).foldl late 0 = crc16 data := by
  have zero : Crc16.shift^[16] 0 = 0 := Function.iterate_fixed (by decide) 16
  have flush (y : UInt16) : late (late y 0) 0 = Crc16.shift^[16] y := by
    have still (z : UInt16) : late z 0 = Crc16.shift^[8] z := UInt16.xor_zero
    rw [still, still]
    rfl
  calc (data ++ [0, 0]).foldl late 0
      = late (late (data.foldl late 0) 0) 0 := List.foldl_append
    _ = data.foldl Crc16.feed (Crc16.shift^[16] 0) := by rw [flush, foldl_feed_flushed]
    _ = crc16 data := by rw [zero, crc16]

/-- Fed in chunks, the checksum and the size are those of all bytes together, and the checksum is
the one that the bootloader computes. -/
theorem checksum_agrees :
    (∀ chunks : List Bytes, chunks.foldl Crc16.update .empty =
      ⟨crc16 chunks.flatten, (chunks.map (·.length)).sum⟩) ∧
    ∀ data : Bytes, checksum? data = some (crc16 data) := by
  constructor
  · intro chunks
    have fed := Crc16.foldl_update [] chunks
    rwa [List.nil_append, List.length_flatten] at fed
  · intro data
    have taken : (data ++ [0, 0]).foldlM takeByte 0 = some (crc16 data).toUInt32 := by
      rw [← foldl_late_flush]
      exact foldlM_takeByte (r := 0) _
    rw [checksum?, taken, Option.map_some, UInt16.toUInt16_toUInt32]

example : checksum? "123456789".toUTF8.data.toList = some 0x31C3 := by decide +kernel

end Bootloader
end ConnectedDevice
