import ConnectedDevice.Bytes

/-!
Texts and the bytes of their UTF-8 form.
-/

namespace ConnectedDevice.Text

/-- Bytes are read as a text exactly if they are its UTF-8 form. -/
theorem fromUTF8?_eq_some {bs : Bytes} {s : String} :
    String.fromUTF8? (ByteArray.mk bs.toArray) = some s ↔ bs = s.toUTF8.data.toList := by
  have bytes : s.toUTF8 = ByteArray.mk bs.toArray ↔ bs = s.toUTF8.data.toList := by
    rw [ByteArray.ext_iff, ← Array.toList_inj, eq_comm]
  rw [← bytes]
  constructor
  · intro read
    simp only [String.fromUTF8?, Option.dite_none_right_eq_some, Option.some.injEq] at read
    obtain ⟨valid, rfl⟩ := read
    rfl
  · intro same
    rw [← same]
    exact dif_pos s.isValidUTF8

/-- The UTF-8 form of characters in sequence. -/
def encode (cs : List Char) : Bytes := cs.flatMap String.utf8EncodeChar

theorem utf8_ofList (cs : List Char) : (String.ofList cs).toUTF8.data.toList = encode cs := by
  simp [encode, List.utf8Encode]

theorem utf8_eq_encode (s : String) : s.toUTF8.data.toList = encode s.toList := by
  rw [← utf8_ofList, String.ofList_toList]

theorem encode_append (cs ds : List Char) : encode (cs ++ ds) = encode cs ++ encode ds :=
  List.flatMap_append

theorem encode_cons (c : Char) (cs : List Char) :
    encode (c :: cs) = String.utf8EncodeChar c ++ encode cs :=
  List.flatMap_cons

theorem utf8EncodeChar_of_ascii {c : Char} (ascii : c.toNat < 0x80) :
    String.utf8EncodeChar c = [c.toNat.toUInt8] :=
  if_pos (Nat.le_of_lt_succ ascii)

/-- No byte of a character is beyond `0xF7`, and beyond the ASCII characters all have their high bit
set. -/
theorem bounds_of_mem_utf8EncodeChar {c : Char} {b : UInt8} (within : b ∈ String.utf8EncodeChar c) :
    b < 0xF8 ∧ (0x80 ≤ c.toNat → 0x80 ≤ b) := by
  have value : c.val.toNat = c.toNat := rfl
  simp only [UInt8.lt_iff_toNat_lt, UInt8.le_iff_toNat_le, String.utf8EncodeChar] at within ⊢
  split at within
  next =>
    rw [List.mem_singleton] at within
    subst within
    simp only [UInt8.reduceToNat, UInt8.toNat_ofNat']
    omega
  next =>
    split at within
    next =>
      simp only [List.mem_cons, List.not_mem_nil, or_false] at within
      rcases within with rfl | rfl <;> simp only [UInt8.reduceToNat, UInt8.toNat_ofNat'] <;> omega
    next =>
      split at within
      next =>
        simp only [List.mem_cons, List.not_mem_nil, or_false] at within
        rcases within with rfl | rfl | rfl <;>
          simp only [UInt8.reduceToNat, UInt8.toNat_ofNat'] <;> omega
      next =>
        simp only [List.mem_cons, List.not_mem_nil, or_false] at within
        rcases within with rfl | rfl | rfl | rfl <;>
          simp only [UInt8.reduceToNat, UInt8.toNat_ofNat'] <;> omega

theorem high_of_mem_utf8EncodeChar {c : Char} {b : UInt8} (beyond : 0x80 ≤ c.toNat)
    (within : b ∈ String.utf8EncodeChar c) : 0x80 ≤ b :=
  (bounds_of_mem_utf8EncodeChar within).2 beyond

theorem lt_of_mem_utf8 {s : String} {b : UInt8} (within : b ∈ s.toUTF8.data.toList) : b < 0xF8 := by
  rw [utf8_eq_encode, encode, List.mem_flatMap] at within
  obtain ⟨c, -, within⟩ := within
  exact (bounds_of_mem_utf8EncodeChar within).1

end ConnectedDevice.Text
