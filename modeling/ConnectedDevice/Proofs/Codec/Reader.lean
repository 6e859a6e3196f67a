import ConnectedDevice.Codec.Reader
import ConnectedDevice.Proofs.Codec.Varint

/-!
Each reader undoes the writer beside it, whatever follows the field. Readers in sequence undo the
concatenation of their writers, which carries the laws of single fields to whole records.
-/

namespace ConnectedDevice.Reader

variable {α β : Type}

/-- The reader takes exactly the bytes `written` off the front of an input and gives `x`. -/
def Undoes (r : Reader α) (written : Bytes) (x : α) : Prop :=
  ∀ rest, r (written ++ rest) = some (x, rest)

theorem Undoes.pure (x : α) : Undoes (pure x) [] x := fun _ => rfl

theorem Undoes.bind {r : Reader α} {f : α → Reader β} {first second : Bytes} {x : α} {y : β}
    (hr : Undoes r first x) (hf : Undoes (f x) second y) :
    Undoes (r >>= f) (first ++ second) y := by
  intro rest
  change (r (first ++ second ++ rest)).bind (fun p => f p.1 p.2) = some (y, rest)
  rw [List.append_assoc, hr]
  exact hf rest

theorem undoes_byte (b : UInt8) : Undoes byte [b] b := fun _ => rfl

theorem undoes_bytes (data : Bytes) : Undoes (bytes data.length) data data := by
  intro rest
  simp [bytes]

theorem undoes_array {n : Nat} (v : Vector UInt8 n) : Undoes (array n) v.toList v := by
  intro rest
  simp [array, Vector.toList]

theorem undoes_word16 (w : UInt16) : Undoes word16 (Writer.word16 w) w := by
  intro rest
  simp [word16, Writer.word16, Varint.decode16_encode]

theorem undoes_word32 (w : UInt32) : Undoes word32 (Writer.word32 w) w := by
  intro rest
  simp [word32, Writer.word32, Varint.decode32_encode]

theorem undoes_flag (b : Bool) : Undoes flag (Writer.flag b) b := by
  intro rest
  cases b <;> rfl

theorem undoes_blob {data : Bytes} (fits : data.length < UInt64.size) :
    Undoes blob (Writer.blob data) data :=
  .bind (Varint.decode64_encode fits) (undoes_bytes data)

theorem fromUTF8?_toUTF8 (s : String) :
    String.fromUTF8? (ByteArray.mk s.toUTF8.data.toList.toArray) = some s := by
  rw [Array.toArray_toList]
  exact dif_pos s.isValidUTF8

theorem undoes_text {s : String} (fits : s.toUTF8.data.toList.length < UInt64.size) :
    Undoes text (Writer.text s) s := by
  rw [← List.append_nil (Writer.text s)]
  refine .bind (undoes_blob fits) ?_
  rw [fromUTF8?_toUTF8]
  exact .pure s

/-- A choice of a list without repetitions is found again at its position. -/
theorem undoes_choice [BEq α] [LawfulBEq α] {choices : List α} {x : α} (member : x ∈ choices)
    (few : choices.length ≤ UInt32.size) : Undoes (choice choices) (Writer.choice choices x) x := by
  intro rest
  have found : choices.idxOf x < choices.length := List.idxOf_lt_length_of_mem member
  have number : (UInt32.ofNat (choices.idxOf x)).toNat = choices.idxOf x :=
    UInt32.toNat_ofNat_of_lt' (Nat.lt_of_lt_of_le found few)
  have position := Varint.decode32_encode (UInt32.ofNat (choices.idxOf x)) rest
  rw [number] at position
  simp [choice, Writer.choice, position, List.getElem?_eq_getElem found]

end ConnectedDevice.Reader
