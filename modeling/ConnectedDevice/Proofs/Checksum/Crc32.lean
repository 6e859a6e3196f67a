import ConnectedDevice.Checksum.Crc32
import ConnectedDevice.Proofs.Bytes
import Mathlib.Logic.Function.Iterate

/-!
Which damage the checksum of images shows. A step of the remainder is linear and loses nothing, so
four bytes fed one after the other act like the word that they make up, and different ones never
lead to the same remainder. Data and its checksum together lead to a remainder that is the same for
all data; no burst of up to four bytes takes one such pair to another.
-/

namespace ConnectedDevice.Crc32

/-- The remainder after the bytes. -/
def remainder (r : UInt32) (data : Bytes) : UInt32 := data.foldl feed r

theorem remainder_append (r : UInt32) (front back : Bytes) :
    remainder r (front ++ back) = remainder (remainder r front) back :=
  List.foldl_append

/-- The bits of a word, the lowest first. -/
def bit (r : UInt32) (i : Nat) : Bool := r.toBitVec.getLsbD i

theorem bit_of_le (r : UInt32) {i : Nat} (beyond : 32 ≤ i) : bit r i = false :=
  BitVec.getLsbD_of_ge _ i beyond

theorem eq_of_bit {r s : UInt32} (same : ∀ i < 32, bit r i = bit s i) : r = s :=
  UInt32.eq_of_toBitVec_eq (BitVec.eq_of_getLsbD_eq same)

@[simp] theorem bit_xor (r s : UInt32) (i : Nat) : bit (r ^^^ s) i = (bit r i ^^ bit s i) := by
  simp [bit]

theorem and_one_ne_zero (r : UInt32) : r &&& 1 ≠ 0 ↔ bit r 0 = true := by
  have low : (r &&& 1).toBitVec = (BitVec.ofBool (bit r 0)).setWidth 32 := by
    rw [UInt32.toBitVec_and]
    exact BitVec.and_one_eq_setWidth_ofBool_getLsbD
  rw [ne_eq, ← UInt32.toBitVec_inj, low]
  cases bit r 0 <;> decide

theorem bit_shift (r : UInt32) (i : Nat) :
    bit (shift r) i = (bit r (i + 1) ^^ (bit r 0 && bit generator i)) := by
  have down : bit (r >>> 1) i = bit r (i + 1) := by simp [bit, Nat.add_comm]
  unfold shift
  split
  next odd => rw [bit_xor, down, (and_one_ne_zero r).mp odd, Bool.true_and]
  next even =>
    have clear : bit r 0 = false := by simpa [and_one_ne_zero] using even
    rw [down, clear, Bool.false_and, Bool.xor_false]

theorem shift_xor (r s : UInt32) : shift (r ^^^ s) = shift r ^^^ shift s := by
  refine eq_of_bit fun i _ => ?_
  simp only [bit_shift, bit_xor]
  cases bit r 0 <;> cases bit s 0 <;> cases bit generator i <;> simp

theorem shift_injective : Function.Injective shift := by
  intro r s same
  have bits (i : Nat) := congrArg (bit · i) same
  simp only [bit_shift] at bits
  -- The highest bit of the generator tells whether the lowest bit was set.
  have lowest : bit r 0 = bit s 0 := by
    have top : bit generator 31 = true := by decide
    simpa [bit_of_le, top] using bits 31
  refine eq_of_bit fun i _ => ?_
  cases i with
  | zero => exact lowest
  | succ i => simpa [lowest] using bits i

theorem iterate_shift_xor (n : Nat) (r s : UInt32) :
    shift^[n] (r ^^^ s) = shift^[n] r ^^^ shift^[n] s := by
  induction n generalizing r s with
  | zero => rfl
  | succ n ih => simp only [Function.iterate_succ_apply, shift_xor, ih]

/-- A remainder whose lowest bits are clear is only moved down. -/
theorem bit_iterate_shift {n : Nat} {r : UInt32} (clear : ∀ i < n, bit r i = false) (i : Nat) :
    bit (shift^[n] r) i = bit r (i + n) := by
  induction n generalizing r with
  | zero => rfl
  | succ n ih =>
      have moved (j : Nat) : bit (shift r) j = bit r (j + 1) := by
        rw [bit_shift, clear 0 (Nat.succ_pos n), Bool.false_and, Bool.xor_false]
      rw [Function.iterate_succ_apply, ih fun j below => ?_, moved, Nat.add_assoc]
      rw [moved, clear (j + 1) (by omega)]

theorem bit_lowest (w : UInt32) (i : Nat) :
    bit w.toUInt8.toUInt32 i = (decide (i < 8) && bit w i) := by
  by_cases inside : i < 32
  · change ((w.toBitVec.setWidth 8).setWidth 32).getLsbD i = _
    simp [BitVec.getLsbD_setWidth, inside, bit]
  · rw [bit_of_le _ (by omega), bit_of_le w (by omega), Bool.and_false]

/-- Of a word, the lowest byte is fed, and the others move down. -/
theorem iterate_shift_word (r w : UInt32) :
    shift^[8] (r ^^^ w) = feed r w.toUInt8 ^^^ (w >>> 8) := by
  have others : shift^[8] (w.toUInt8.toUInt32 ^^^ w) = w >>> 8 := by
    refine eq_of_bit fun i _ => ?_
    have down : bit (w >>> 8) i = bit w (i + 8) := by simp [bit, Nat.add_comm]
    rw [bit_iterate_shift fun j below => ?_]
    · have beyond : ¬i + 8 < 8 := by omega
      rw [bit_xor, bit_lowest, decide_eq_false beyond, Bool.false_and, Bool.false_xor, down]
    · rw [bit_xor, bit_lowest, decide_eq_true below, Bool.true_and, Bool.xor_self]
  have split : r ^^^ w = (r ^^^ w.toUInt8.toUInt32) ^^^ (w.toUInt8.toUInt32 ^^^ w) := by
    rw [UInt32.xor_assoc, ← UInt32.xor_assoc w.toUInt8.toUInt32, UInt32.xor_self, UInt32.zero_xor]
  rw [split, iterate_shift_xor, others]
  rfl

/-- Four bytes are fed like the word that they make up. -/
theorem remainder_word (r w : UInt32) :
    remainder r (Bytes.ofWord32 w) = shift^[32] (r ^^^ w) := by
  have second : w >>> 8 >>> 8 = w >>> 16 := eq_of_bit fun i _ => by simp [bit]
  have third : w >>> 16 >>> 8 = w >>> 24 := eq_of_bit fun i _ => by simp [bit]
  have last : w >>> 24 >>> 8 = 0 := eq_of_bit fun i _ => by simp [bit]
  calc remainder r (Bytes.ofWord32 w)
      = feed (feed (feed (feed r w.toUInt8) (w >>> 8).toUInt8) (w >>> 16).toUInt8)
          (w >>> 24).toUInt8 ^^^ (w >>> 24 >>> 8) := by
        rw [last, UInt32.xor_zero]
        rfl
    _ = shift^[8] (shift^[8] (shift^[8] (shift^[8] (r ^^^ w)))) := by
        rw [iterate_shift_word r w, iterate_shift_word _ (w >>> 8), second,
          iterate_shift_word _ (w >>> 16), third, iterate_shift_word _ (w >>> 24)]
    _ = shift^[32] (r ^^^ w) := rfl

theorem feed_injective (b : UInt8) : Function.Injective (feed · b) := by
  intro r s same
  have words : r ^^^ b.toUInt32 = s ^^^ b.toUInt32 := shift_injective.iterate 8 same
  simpa using words

theorem remainder_injective (data : Bytes) : Function.Injective (remainder · data) := by
  induction data with
  | nil => exact fun _ _ same => same
  | cons b data ih => exact fun _ _ same => feed_injective b (ih same)

/-- Four bytes are known from the remainder after them. -/
theorem eq_of_remainder_four {r : UInt32} {xs ys : Bytes} (four : xs.length = 4)
    (four' : ys.length = 4) (same : remainder r xs = remainder r ys) : xs = ys := by
  match xs, ys, four, four' with
  | [a, b, c, d], [a', b', c', d'], _, _ =>
    rw [← Bytes.ofWord32_word32 a, ← Bytes.ofWord32_word32 a', remainder_word,
      remainder_word] at same
    have words : Bytes.word32 a b c d = Bytes.word32 a' b' c' d' := by
      simpa using shift_injective.iterate 32 same
    rw [← Bytes.ofWord32_word32 a, words, Bytes.ofWord32_word32]

/-- Fewer bytes are completed to four by zeros. -/
theorem eq_of_remainder_short {r : UInt32} {xs ys : Bytes} (short : xs.length ≤ 4)
    (length : ys.length = xs.length) (same : remainder r xs = remainder r ys) : xs = ys := by
  have padded : remainder r (xs ++ List.replicate (4 - xs.length) 0) =
      remainder r (ys ++ List.replicate (4 - xs.length) 0) := by
    rw [remainder_append, remainder_append, same]
  refine List.append_cancel_right (eq_of_remainder_four ?_ ?_ padded)
  · rw [List.length_append, List.length_replicate]
    omega
  · rw [List.length_append, List.length_replicate]
    omega

/-- Byte strings that differ only in four consecutive bytes lead to different remainders. -/
theorem eq_of_burst {r : UInt32} {xs ys : Bytes} {start : Nat} (length : ys.length = xs.length)
    (burst : ∀ i, ys[i]? ≠ xs[i]? → start ≤ i ∧ i < start + 4)
    (same : remainder r xs = remainder r ys) : xs = ys := by
  have outside {i : Nat} (other : ¬(start ≤ i ∧ i < start + 4)) : ys[i]? = xs[i]? :=
    not_not.mp fun differs => other (burst i differs)
  have front : ys.take start = xs.take start := by
    refine List.ext_getElem? fun i => ?_
    rw [List.getElem?_take, List.getElem?_take]
    split
    · exact outside (by omega)
    · rfl
  have back : ys.drop (start + 4) = xs.drop (start + 4) := by
    refine List.ext_getElem? fun i => ?_
    rw [List.getElem?_drop, List.getElem?_drop, outside (by omega)]
  have parts (zs : Bytes) :
      zs = zs.take start ++ ((zs.drop start).take 4 ++ zs.drop (start + 4)) := by
    rw [← List.drop_drop, List.take_append_drop, List.take_append_drop]
  rw [parts xs, parts ys, front, back]
  rw [parts xs, parts ys, front, back, remainder_append, remainder_append _ (xs.take start),
    remainder_append _ _ (xs.drop (start + 4)), remainder_append _ _ (xs.drop (start + 4))] at same
  have damaged := remainder_injective _ same
  rw [eq_of_remainder_short (List.length_take_le _ _) (by simp [length]) damaged]

/-- The remainder after data and its checksum does not depend on the data. -/
theorem remainder_checked (data : Bytes) :
    remainder 0xFFFFFFFF (data ++ Bytes.ofWord32 (crc32 data)) = shift^[32] 0xFFFFFFFF := by
  have sum : crc32 data = remainder 0xFFFFFFFF data ^^^ 0xFFFFFFFF := rfl
  rw [remainder_append, remainder_word, sum, ← UInt32.xor_assoc, UInt32.xor_self, UInt32.zero_xor]

/-- No burst of up to four bytes takes data with its checksum to other data with its checksum. -/
theorem checked_eq_of_burst {xs ys : Bytes} {start : Nat} (length : ys.length = xs.length)
    (burst : ∀ i, (ys ++ Bytes.ofWord32 (crc32 ys))[i]? ≠ (xs ++ Bytes.ofWord32 (crc32 xs))[i]? →
      start ≤ i ∧ i < start + 4) : ys = xs := by
  have whole := eq_of_burst (by simp [length]) burst
    ((remainder_checked xs).trans (remainder_checked ys).symm)
  exact ((List.append_inj whole length.symm).1).symm

end ConnectedDevice.Crc32
