import ConnectedDevice.Proofs.Checksum.Crc32
import ConnectedDevice.Proofs.Config.Decoding

/-!
What damage to an image cannot do. Where the record still ends at the place at which it was written,
the damaged header must announce the same length, and the checksum stands where it stood; damage
within four consecutive bytes is then no damage at all.
-/

namespace ConnectedDevice.ConfigRecord

open Reader

/-- The bytes of the payload that a record is decoded from. -/
def DecodedFrom (image fields : Bytes) : Prop :=
  ∃ payload rest r, Framed image payload ∧ read payload = some (r, rest) ∧ payload = fields ++ rest

/-- A record that is read was decoded from an encoding of it, with its checksum behind. -/
theorem DecodedFrom.sealed_of_ok {image fields : Bytes} {r : ConfigRecord}
    (decoded : DecodedFrom image fields) (accepted : ofImage image = .ok r) :
    ∃ payload, Framed image payload ∧ Sealed payload fields ∧ fields ∈ r.encodings := by
  obtain ⟨payload, rest, r', framed, taken, rfl⟩ := decoded
  refine ⟨_, framed, ?_⟩
  rw [ofImage_of_framed framed] at accepted
  cases found : ofPayload? (fields ++ rest) with
  | none => simp [found] at accepted
  | some r'' =>
      rw [found, Option.elim_some, Except.ok.injEq] at accepted
      subst accepted
      obtain ⟨fields', encoded, junk, whole⟩ := ofPayload?_eq_some.mp found
      have again := (accepts_read _ _ _).mpr ⟨fields', encoded, whole.trans (List.append_assoc ..)⟩
      cases taken.symm.trans again
      rw [List.append_assoc] at whole
      have same := List.append_cancel_right whole
      subst same
      exact ⟨⟨junk, by rw [List.append_assoc]⟩, encoded⟩

theorem exists_decodedFrom {image : Bytes} {r : ConfigRecord} (accepted : ofImage image = .ok r) :
    ∃ fields, DecodedFrom image fields := by
  obtain ⟨payload, fields, framed, ⟨junk, rfl⟩, encoded⟩ := ofImage_eq_ok_iff.mp accepted
  rw [List.append_assoc] at framed
  exact ⟨fields, _, _, r, framed, (accepts_read _ _ _).mpr ⟨fields, encoded, rfl⟩, rfl⟩

/-- Where the fields are as long as the image has room for, nothing stands behind their checksum. -/
theorem eq_of_framed {image payload fields : Bytes} (framed : Framed image payload)
    (checked : Sealed payload fields) (room : image.length = fields.length + 12) :
    image = Bytes.ofWord32 magic ++ Bytes.ofWord32 (fields.length + 4).toUInt32 ++
      (fields ++ Bytes.ofWord32 (crc32 fields)) := by
  obtain ⟨length, behind, rfl, announced⟩ := framed
  obtain ⟨junk, rfl⟩ := checked
  simp only [List.length_append, Bytes.length_ofWord32] at room announced
  have noJunk : junk = [] := List.eq_nil_of_length_eq_zero (by omega)
  have nothing : behind = [] := List.eq_nil_of_length_eq_zero (by omega)
  subst noJunk nothing
  have same : (fields.length + 4).toUInt32 = length := by
    rw [List.length_nil, Nat.add_zero] at announced
    rw [announced]
    exact UInt32.ofNat_toNat
  rw [same, List.append_nil, List.append_nil]

variable {r : ConfigRecord} {image damaged : Bytes} {start : Nat}

/-- A record that was decoded from as many bytes as were written was decoded from the same bytes. -/
theorem undamaged_of_burst (written : r.toImage = .ok image)
    (length : damaged.length = image.length)
    (burst : ∀ i, damaged[i]? ≠ image[i]? → start ≤ i ∧ i < start + 4) {r' : ConfigRecord}
    {fields : Bytes} (accepted : ofImage damaged = .ok r') (decoded : DecodedFrom damaged fields)
    (size : fields.length = r.encode.length) : damaged = image ∧ r' = r := by
  obtain ⟨fits, rfl⟩ := (r.toImage_eq_ok_iff image).mp written
  obtain ⟨payload, framed, checked, encoded⟩ := decoded.sealed_of_ok accepted
  have payloadLength := r.length_payload
  have room : damaged.length = fields.length + 12 := by
    rw [length, size, List.length_append, payloadLength]
    simp
    omega
  have damaged_eq := eq_of_framed framed checked room
  subst damaged_eq
  rw [size, ← payloadLength] at burst ⊢
  -- Both images have the same header, so that they differ behind it only.
  have behind (i : Nat) (differs : (fields ++ Bytes.ofWord32 (crc32 fields))[i]? ≠
      (r.encode ++ Bytes.ofWord32 (crc32 r.encode))[i]?) : start - 8 ≤ i ∧ i < start - 8 + 4 := by
    have shifted (data : Bytes) : (Bytes.ofWord32 magic ++
        Bytes.ofWord32 r.payload.length.toUInt32 ++ data)[8 + i]? = data[i]? := by
      rw [List.getElem?_append_right (by simp)]
      simp
    have place := burst (8 + i) (by rw [shifted, shifted]; exact differs)
    omega
  have same : fields = r.encode := Crc32.checked_eq_of_burst size behind
  subst same
  have narrower : UInt32.size < UInt64.size := by decide
  have taken := (accepts_read (r.encode ++ []) r' []).mpr ⟨_, encoded, rfl⟩
  have written := r.read_encode (by omega) []
  rw [taken, Option.some.injEq, Prod.mk.injEq] at written
  exact ⟨rfl, written.1⟩

/-- Damage within four bytes leaves an image unreadable, or leaves its record, or moves the end of
the record; it never leads to another record of the same size. -/
theorem ofImage_of_burst (written : r.toImage = .ok image) (length : damaged.length = image.length)
    (burst : ∀ i, damaged[i]? ≠ image[i]? → start ≤ i ∧ i < start + 4) :
    ((∃ e, ofImage damaged = .error e) ∨ ofImage damaged = .ok r ∨
      ∃ r' fields, ofImage damaged = .ok r' ∧ DecodedFrom damaged fields ∧
        fields.length ≠ r.encode.length) ∧
    ∀ r' fields, ofImage damaged = .ok r' → DecodedFrom damaged fields →
      fields.length = r.encode.length → damaged = image ∧ r' = r := by
  refine ⟨?_, fun r' fields => undamaged_of_burst written length burst⟩
  cases result : ofImage damaged with
  | error e => exact .inl ⟨e, rfl⟩
  | ok r' =>
      obtain ⟨fields, decoded⟩ := exists_decodedFrom result
      by_cases size : fields.length = r.encode.length
      · obtain ⟨-, rfl⟩ := undamaged_of_burst written length burst result decoded size
        exact .inr (.inl rfl)
      · exact .inr (.inr ⟨r', fields, rfl, decoded, size⟩)

/-- A record whose application data are the checksum of the record without them. -/
def nested : ConfigRecord :=
  { factory "Hall" 1 0 with appConfig := Bytes.ofWord32 (crc32 (factory "Hall" 1 0).encode) }

def nestedImage : Bytes :=
  Bytes.ofWord32 magic ++ Bytes.ofWord32 nested.payload.length.toUInt32 ++ nested.payload

/-- Where the damage hits the length of the application data, the end of the record moves. -/
theorem ofImage_of_burst_movedEnd :
    let damaged := nestedImage.set (7 + (factory "Hall" 1 0).encode.length) 0
    ofImage damaged = .ok (factory "Hall" 1 0) ∧ factory "Hall" 1 0 ≠ nested ∧
      ∃ fields, DecodedFrom damaged fields ∧ fields.length ≠ nested.encode.length := by
  intro damaged
  have written : nested.toImage = .ok nestedImage :=
    (nested.toImage_eq_ok_iff _).mpr ⟨by decide +kernel, rfl⟩
  have read : ofImage damaged = .ok (factory "Hall" 1 0) := by decide +kernel
  have other : factory "Hall" 1 0 ≠ nested := by decide +kernel
  have burst (i : Nat) (differs : damaged[i]? ≠ nestedImage[i]?) :
      7 + (factory "Hall" 1 0).encode.length ≤ i ∧
        i < 7 + (factory "Hall" 1 0).encode.length + 4 := by
    have place : 7 + (factory "Hall" 1 0).encode.length = i :=
      not_not.mp fun elsewhere => differs (List.getElem?_set_ne elsewhere)
    omega
  obtain ⟨outcome, -⟩ := ofImage_of_burst written List.length_set burst
  rcases outcome with ⟨e, failed⟩ | same | ⟨r', fields, -, decoded, size⟩
  · cases failed.symm.trans read
  · exact absurd (Except.ok.inj (read.symm.trans same)) other
  · exact ⟨read, other, fields, decoded, size⟩

end ConnectedDevice.ConfigRecord
