import ConnectedDevice.Codec.Reader
import ConnectedDevice.Proofs.Codec.Varint

/-!
The sizes of written fields. Fixed bytes apart, a field is as large as its numbers make it: a number
takes the bytes of its width at most, and the length of a short text takes one.
-/

namespace ConnectedDevice.Writer

theorem length_word16_le (w : UInt16) : (word16 w).length ≤ 3 :=
  Varint.length_encode_le 3 3 w.toNat (by decide) w.toNat_lt

theorem length_word32_le (w : UInt32) : (word32 w).length ≤ 5 :=
  Varint.length_encode_le 15 5 w.toNat (by decide) w.toNat_lt

theorem length_flag (b : Bool) : (flag b).length = 1 := rfl

theorem length_choice {α : Type} [BEq α] [LawfulBEq α] {choices : List α}
    (few : choices.length < 128) (x : α) : (choice choices x).length = 1 := by
  have position : choices.idxOf x < 128 := Nat.lt_of_le_of_lt List.idxOf_le_length few
  simp [choice, Varint.encode_of_lt position]

theorem length_blob (data : Bytes) :
    (blob data).length = (Varint.encode data.length).length + data.length :=
  List.length_append

theorem length_blob_le (data : Bytes) (short : data.length < 16384) :
    (blob data).length ≤ data.length + 2 := by
  have count := Varint.length_encode_le 127 2 data.length (by decide) short
  rw [length_blob]
  omega

theorem length_blob_ge (data : Bytes) (long : 128 ≤ data.length) :
    data.length + 2 ≤ (blob data).length := by
  have groups := Varint.length_encode_pos (data.length / 128)
  rw [length_blob, Varint.encode_of_le long, List.length_cons]
  omega

theorem length_text (s : String) :
    (text s).length = (Varint.encode s.utf8ByteSize).length + s.utf8ByteSize :=
  length_blob s.toUTF8.data.toList

theorem length_text_of_lt {s : String} (short : s.utf8ByteSize < 128) :
    (text s).length = s.utf8ByteSize + 1 := by
  rw [length_text, Varint.encode_of_lt short, List.length_singleton, Nat.add_comm]

end ConnectedDevice.Writer
