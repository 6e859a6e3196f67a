import ConnectedDevice.Bytes

/-!
Words survive being taken apart into bytes and put together again.
-/

namespace ConnectedDevice.Bytes

@[simp] theorem length_ofWord32 (w : UInt32) : (ofWord32 w).length = 4 := rfl

/-- The byte of a word at bit `n`, in its place. -/
private def byteAt (x : BitVec 32) (n : Nat) : BitVec 32 :=
  ((x >>> n).setWidth 8).setWidth 32 <<< n

private theorem getElem_byteAt (x : BitVec 32) (n i : Nat) (hi : i < 32) :
    (byteAt x n)[i] = (decide (n ≤ i) && decide (i < n + 8) && x[i]) := by
  by_cases below : i < n
  · simp [byteAt, BitVec.getElem_shiftLeft, below, show ¬n ≤ i by omega]
  · have place : n + (i - n) = i := by omega
    simp [byteAt, BitVec.getElem_shiftLeft, below, place, hi, BitVec.getLsbD_eq_getElem,
      show n ≤ i by omega, show i - n < 8 ↔ i < n + 8 by omega]

theorem word32_ofWord32 (w : UInt32) :
    word32 w.toUInt8 (w >>> 8).toUInt8 (w >>> 16).toUInt8 (w >>> 24).toUInt8 = w := by
  apply UInt32.eq_of_toBitVec_eq
  have lowest : (w.toBitVec.setWidth 8).setWidth 32 = byteAt w.toBitVec 0 := by simp [byteAt]
  change (w.toBitVec.setWidth 8).setWidth 32 ||| byteAt w.toBitVec 8 |||
    byteAt w.toBitVec 16 ||| byteAt w.toBitVec 24 = w.toBitVec
  rw [lowest]
  ext i hi
  simp only [BitVec.getElem_or, getElem_byteAt]
  -- Every bit lies in one of the four bytes.
  cases w.toBitVec[i]
  · simp
  · simp
    omega

theorem ofWord32_word32 (a b c d : UInt8) : ofWord32 (word32 a b c d) = [a, b, c, d] := by
  have first : (word32 a b c d).toUInt8 = a := by
    apply UInt8.eq_of_toBitVec_eq
    ext i hi
    simp [word32]
  have second : (word32 a b c d >>> 8).toUInt8 = b := by
    apply UInt8.eq_of_toBitVec_eq
    ext i hi
    simp [word32, BitVec.getLsbD_eq_getElem, hi, show 8 + i < 16 by omega,
      show 8 + i < 24 by omega, show i < 32 by omega, show 8 + i < 32 by omega]
  have third : (word32 a b c d >>> 16).toUInt8 = c := by
    apply UInt8.eq_of_toBitVec_eq
    ext i hi
    simp [word32, BitVec.getLsbD_eq_getElem, hi, show ¬16 + i < 8 by omega,
      show 16 + i < 24 by omega, show i < 32 by omega, show 16 + i < 32 by omega]
    grind
  have fourth : (word32 a b c d >>> 24).toUInt8 = d := by
    apply UInt8.eq_of_toBitVec_eq
    ext i hi
    simp [word32, BitVec.getLsbD_eq_getElem, hi, show i < 32 by omega,
      show 24 + i < 32 by omega]
    grind
  simp only [ofWord32, first, second, third, fourth]

end ConnectedDevice.Bytes
