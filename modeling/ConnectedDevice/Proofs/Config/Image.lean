import ConnectedDevice.Config.Image
import ConnectedDevice.Proofs.Bytes
import ConnectedDevice.Proofs.Codec.Reader

/-!
A record is read back from its image, with any bytes behind the image. The one condition is that
the payload's length fits its field; it bounds every length inside the payload as well.
-/

namespace ConnectedDevice

open Reader

theorem BootTable.read_encode (t : BootTable) : Undoes BootTable.read t.encode t := by
  have letters : [t.imageType, t.upgradeType] = [t.imageType] ++ [t.upgradeType] := rfl
  rw [← List.append_nil t.encode]
  simp only [BootTable.encode, letters, List.append_assoc]
  refine .bind (undoes_word32 _) (.bind (undoes_word32 _) (.bind (undoes_array _) ?_))
  refine .bind (undoes_byte _) (.bind (undoes_byte _) ?_)
  exact .bind (undoes_word16 _) (.bind (undoes_array _) (.pure t))

namespace SystemConfig

/-- A text field takes no more bytes than the encoded settings. -/
theorem length_le_encode (c : SystemConfig) {s : String}
    (field : s ∈ [c.name, c.ssid, c.userKey, c.key, c.localIp, c.netmask, c.gateway, c.dnsServer]) :
    s.toUTF8.data.toList.length ≤ c.encode.length := by
  simp only [encode, Writer.text, Writer.blob, List.length_append]
  simp only [List.mem_cons, List.not_mem_nil, or_false] at field
  rcases field with rfl | rfl | rfl | rfl | rfl | rfl | rfl | rfl <;> omega

theorem read_encode (c : SystemConfig) (fits : c.encode.length < UInt64.size) :
    Undoes read c.encode c := by
  have text {s : String} (field : s ∈ [c.name, c.ssid, c.userKey, c.key, c.localIp, c.netmask,
      c.gateway, c.dnsServer]) : Undoes Reader.text (Writer.text s) s :=
    undoes_text (Nat.lt_of_le_of_lt (c.length_le_encode field) fits)
  rw [← List.append_nil c.encode]
  simp only [encode, List.append_assoc]
  refine .bind (text (by simp)) (.bind (text (by simp)) ?_)
  refine .bind (text (by simp)) (.bind (text (by simp)) ?_)
  refine .bind (undoes_array _) (.bind (undoes_byte _) ?_)
  refine .bind (undoes_choice (by cases c.security <;> decide) (by decide)) ?_
  refine .bind (undoes_flag _) (.bind (undoes_flag _) (.bind (undoes_flag _) ?_))
  refine .bind (text (by simp)) (.bind (text (by simp)) ?_)
  refine .bind (text (by simp)) (.bind (text (by simp)) ?_)
  refine .bind (undoes_choice (by cases c.configured <;> decide) (by decide)) ?_
  refine .bind (undoes_choice (by cases c.bypass <;> decide) (by decide)) ?_
  exact .bind (undoes_word32 _) (.pure c)

end SystemConfig

namespace ConfigRecord

theorem read_encode (r : ConfigRecord) (fits : r.encode.length < UInt64.size) :
    Undoes read r.encode r := by
  have lengths : r.encode.length =
      r.bootTable.encode.length + r.system.encode.length + (Writer.blob r.appConfig).length := by
    simp [encode, Nat.add_assoc]
  have appLength : r.appConfig.length ≤ (Writer.blob r.appConfig).length := by
    simp [Writer.blob]
  rw [← List.append_nil r.encode]
  simp only [encode, List.append_assoc]
  refine .bind r.bootTable.read_encode (.bind (r.system.read_encode (by omega)) ?_)
  exact .bind (undoes_blob (by omega)) (.pure r)

theorem length_payload (r : ConfigRecord) : r.payload.length = r.encode.length + 4 := by
  simp [payload]

theorem ofPayload?_payload (r : ConfigRecord) (fits : r.payload.length < UInt32.size) :
    ofPayload? r.payload = some r := by
  have narrower : UInt32.size < UInt64.size := by decide
  have lengths := r.length_payload
  have taken : read r.payload = some (r, Bytes.ofWord32 (crc32 r.encode)) :=
    r.read_encode (by omega) _
  have fields : r.payload.take (r.payload.length - 4) = r.encode := by
    rw [lengths, Nat.add_sub_cancel]
    exact List.take_left
  simp [ofPayload?, taken, fields, Bytes.ofWord32, Bytes.word32_ofWord32]

theorem toImage_eq_ok_iff (r : ConfigRecord) (image : Bytes) :
    r.toImage = .ok image ↔
      r.payload.length < UInt32.size ∧
        image = Bytes.ofWord32 magic ++ Bytes.ofWord32 r.payload.length.toUInt32 ++ r.payload := by
  simp only [toImage]
  split
  · rename_i fits
    simp [fits, eq_comm]
  · rename_i long
    simp [long]

/-- What was written to the flash is what is read from it, whatever stands behind it. -/
theorem ofImage_append {r : ConfigRecord} {image : Bytes} (written : r.toImage = .ok image)
    (behind : Bytes) : ofImage (image ++ behind) = .ok r := by
  obtain ⟨fits, rfl⟩ := (r.toImage_eq_ok_iff image).mp written
  have length : r.payload.length.toUInt32.toNat = r.payload.length :=
    UInt32.toNat_ofNat_of_lt' fits
  have payload := r.ofPayload?_payload fits
  have enough : ¬(r.payload ++ behind).length < r.payload.length := by simp
  simp only [ofImage, Bytes.ofWord32, List.cons_append, List.nil_append, Bytes.word32_ofWord32,
    length, ne_eq, not_true_eq_false, if_false, if_neg enough, List.take_left, payload]

/-- Every image that is read starts with the mark. -/
theorem ofImage_eq_ok {image : Bytes} {r : ConfigRecord} (read : ofImage image = .ok r) :
    ∃ rest, image = Bytes.ofWord32 magic ++ rest := by
  unfold ofImage at read
  split at read
  next m0 m1 m2 m3 l0 l1 l2 l3 rest =>
    split at read
    · simp at read
    next marked =>
      have mark : Bytes.word32 m0 m1 m2 m3 = magic := by simpa using marked
      refine ⟨l0 :: l1 :: l2 :: l3 :: rest, ?_⟩
      rw [← mark, Bytes.ofWord32_word32]
      rfl
  next => simp at read

/-- The image of a record whose payload can be announced exists, and gives the record back. -/
theorem image_roundTrip (r : ConfigRecord) (fits : r.payload.length < UInt32.size) :
    ∃ image, r.toImage = .ok image ∧ ∀ behind, ofImage (image ++ behind) = .ok r := by
  have written := (r.toImage_eq_ok_iff _).mpr ⟨fits, rfl⟩
  exact ⟨_, written, ofImage_append written⟩

/-- Its application data take a length of two bytes, and its name a letter beyond ASCII. -/
def sampleRecord : ConfigRecord :=
  { factory "Küche" 1 200 with bootTable := .upgrade 0x88000 300 0xBEEF }

theorem image_roundTrip_sample :
    sampleRecord.payload.length < UInt32.size ∧
      ∃ image, sampleRecord.toImage = .ok image ∧
        ∀ behind, ofImage (image ++ behind) = .ok sampleRecord := by
  have fits : sampleRecord.payload.length < UInt32.size := by decide +kernel
  exact ⟨fits, image_roundTrip sampleRecord fits⟩

end ConfigRecord
end ConnectedDevice
