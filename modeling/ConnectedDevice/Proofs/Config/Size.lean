import ConnectedDevice.Proofs.Codec.Writer
import ConnectedDevice.Proofs.Config.FieldLimits
import ConnectedDevice.Proofs.Flash.Interchange

/-!
The sizes of images. The limits of the text fields bound all of a record but the data of the
application; what they leave of the configuration partition is the room for these.
-/

namespace ConnectedDevice

open Writer

/-! ## Records -/

theorem BootTable.length_encode_le (t : BootTable) : t.encode.length ≤ 27 := by
  have start := length_word32_le t.startAddress
  have length := length_word32_le t.length
  have crc := length_word16_le t.crc
  simp only [encode, List.length_append, Vector.length_toList, List.length_cons, List.length_nil]
  omega

namespace SystemConfig

/-- The bytes of all texts together. -/
def textSize (c : SystemConfig) : Nat :=
  c.name.utf8ByteSize + c.ssid.utf8ByteSize + c.userKey.utf8ByteSize + c.key.utf8ByteSize +
    c.localIp.utf8ByteSize + c.netmask.utf8ByteSize + c.gateway.utf8ByteSize +
      c.dnsServer.utf8ByteSize

variable {c : SystemConfig}

theorem Fits.textSize_le (fits : c.Fits) : c.textSize ≤ 256 := by
  obtain ⟨name, ssid, userKey, key, localIp, netmask, gateway, dnsServer⟩ := fits
  simp only [fieldLimits] at name ssid userKey key localIp netmask gateway dnsServer
  rw [textSize]
  omega

/-- Each of the eight texts has its length in front. The rest are an address of six bytes, seven
fields of one byte, and the seed, which alone has no fixed size. -/
theorem Fits.length_encode (fits : c.Fits) :
    c.encode.length = c.textSize + 21 + (word32 c.seed).length := by
  obtain ⟨name, ssid, userKey, key, localIp, netmask, gateway, dnsServer⟩ := fits
  have short {s : String} {limit : Nat} (fits : s.utf8ByteSize ≤ limit) (few : limit < 128) :
      (text s).length = s.utf8ByteSize + 1 := length_text_of_lt (Nat.lt_of_le_of_lt fits few)
  simp only [encode, List.length_append, short name (by decide), short ssid (by decide),
    short userKey (by decide), short key (by decide), short localIp (by decide),
    short netmask (by decide), short gateway (by decide), short dnsServer (by decide),
    length_choice (show Security.all.length < 128 by decide),
    length_choice (show ConfigState.all.length < 128 by decide),
    length_choice (show Bypass.all.length < 128 by decide), length_flag, Vector.length_toList,
    List.length_singleton, textSize]
  omega

end SystemConfig

namespace ConfigRecord

variable {r : ConfigRecord}

theorem length_image {image : Bytes} (written : r.toImage = .ok image) :
    image.length = r.encode.length + 12 := by
  obtain ⟨-, rfl⟩ := (r.toImage_eq_ok_iff image).mp written
  simp only [List.length_append, Bytes.length_ofWord32, length_payload]
  omega

theorem length_encode_le (fits : r.system.Fits) :
    r.encode.length ≤ 309 + (blob r.appConfig).length := by
  have table := r.bootTable.length_encode_le
  have settings := fits.length_encode
  have texts := fits.textSize_le
  have seed := length_word32_le r.system.seed
  rw [encode, List.length_append, List.length_append]
  omega

end ConfigRecord

/-! ## Room -/

/-- Where there is room, nothing but the flash refuses a commit. -/
theorem Settings.commit_of_room {s : Settings} {f : Nor} {image : Bytes} {info : PartitionInfo}
    (written : s.record.toImage = .ok image) (place : f.partition? .config = some info)
    (room : image.length ≤ info.size) :
    (s.commit f).1 = if f.refusing then .error (.flash (.refused .config)) else .ok () := by
  cases refusing : f.refusing with
  | false =>
      obtain ⟨r, region, rfl⟩ := Option.map_eq_some_iff.mp place
      rw [s.commit_written f written region room refusing]
      rfl
  | true =>
      rw [s.commit_refused f written place room refusing]
      rfl

theorem Layout.find?_standard_config : standard.find? .config = some ⟨0x4000, 8192⟩ := rfl

namespace ConfigRecord

/-- What the setters leave of a text that is beyond all limits. -/
def widestSystem : SystemConfig :=
  let text := String.ofList (List.replicate 100 'x')
  ((SystemConfig.factory text 0xFFFFFFFF).setCredentials text text).setStaticIp text text text text

/-- A record whose texts and numbers take all the bytes that they may take. -/
def widest (appSize : Nat) : ConfigRecord :=
  ⟨.upgrade 0xFFFFFFFF 0xFFFFFFFF 0xFFFF, widestSystem, List.replicate appSize 0⟩

theorem widest_fits (appSize : Nat) : (widest appSize).system.Fits :=
  ((SystemConfig.fits_factory _ _).setCredentials _ _).setStaticIp _ _ _ _

theorem length_encode_widest (appSize : Nat) : (widest appSize).encode.length =
    309 + (blob (List.replicate appSize 0)).length := by
  have table : (BootTable.upgrade 0xFFFFFFFF 0xFFFFFFFF 0xFFFF).encode.length = 27 := by
    decide +kernel
  have system : widestSystem.encode.length = 282 := by decide +kernel
  simp only [encode, widest, List.length_append, table, system]

theorem exists_image_of_fits {r : ConfigRecord} (fits : r.system.Fits)
    (room : r.appConfig.length ≤ 7869) : ∃ image, r.toImage = .ok image ∧ image.length ≤ 8192 := by
  have fields := length_encode_le fits
  have data := length_blob_le r.appConfig (by omega)
  have payload : r.payload.length < UInt32.size := by
    rw [length_payload, show UInt32.size = 4294967296 from rfl]
    omega
  have written := (r.toImage_eq_ok_iff _).mpr ⟨payload, rfl⟩
  refine ⟨_, written, ?_⟩
  rw [length_image written]
  omega

theorem le_length_image_widest {n : Nat} (long : 128 ≤ n) {image : Bytes}
    (written : (widest n).toImage = .ok image) : n + 323 ≤ image.length := by
  have data := length_blob_ge (List.replicate n 0) (by rwa [List.length_replicate])
  rw [List.length_replicate] at data
  rw [length_image written, length_encode_widest]
  omega

/-- Settings within the limits leave room for 7869 bytes of application data in the standard layout:
such a record has an image that fits its partition, and a commit is refused by a flash that takes no
writes, and by nothing else. With one byte more there are settings within the limits that do not
fit. -/
theorem limits_fit_partition :
    (∀ r : ConfigRecord, r.system.Fits → r.appConfig.length ≤ 7869 →
      ∃ image, r.toImage = .ok image ∧ image.length ≤ 8192 ∧
        ∀ (status : RuntimeStatus) (f : Nor),
          f.partition? .config = Layout.standard.find? .config →
            ((⟨r, status⟩ : Settings).commit f).1 =
              if f.refusing then .error (.flash (.refused .config)) else .ok ()) ∧
    ∀ n, 7869 < n → ∃ r : ConfigRecord, r.system.Fits ∧ r.appConfig.length = n ∧
      ∀ (status : RuntimeStatus) (f : Nor),
        f.partition? .config = Layout.standard.find? .config →
          ∃ e, (⟨r, status⟩ : Settings).commit f = (.error e, f) ∧
            (e = .image .tooLarge ∨ ∃ length, e = .recordTooLarge length 8192) := by
  constructor
  · intro r fits room
    obtain ⟨image, written, size⟩ := exists_image_of_fits fits room
    refine ⟨image, written, size, fun status f place => ?_⟩
    exact Settings.commit_of_room written (place.trans Layout.find?_standard_config) size
  · intro n large
    refine ⟨widest n, widest_fits n, List.length_replicate, fun status f place => ?_⟩
    cases written : (widest n).toImage with
    | error e =>
        refine ⟨.image e, by simp [Settings.commit, written], .inl ?_⟩
        simp only [toImage] at written
        split at written
        · cases written
        · cases written
          rfl
    | ok image =>
        have size := le_length_image_widest (by omega) written
        have larger : 8192 < image.length := by omega
        have place := place.trans Layout.find?_standard_config
        exact ⟨_, Settings.commit_tooLarge _ f written place larger, .inr ⟨_, rfl⟩⟩

/-- The room is used up to the last byte. -/
theorem limits_fit_partition_widest :
    (∃ image, (widest 7869).toImage = .ok image ∧ image.length = 8192 ∧
      ((⟨widest 7869, .empty⟩ : Settings).commit (.blank .standard)).1 = .ok ()) ∧
    ∃ r : ConfigRecord, r.system.Fits ∧ r.appConfig.length = 7870 ∧
      ∃ e, (⟨r, .empty⟩ : Settings).commit (.blank .standard) = (.error e, .blank .standard) := by
  obtain ⟨within, beyond⟩ := limits_fit_partition
  constructor
  · obtain ⟨image, written, size, commits⟩ :=
      within (widest 7869) (widest_fits 7869) (Nat.le_of_eq List.length_replicate)
    have exactly : image.length = 8192 :=
      Nat.le_antisymm size (le_length_image_widest (by decide) written)
    exact ⟨image, written, exactly, commits .empty _ Nor.partition?_blank⟩
  · obtain ⟨r, fits, length, refused⟩ := beyond 7870 (by decide)
    obtain ⟨e, ends, -⟩ := refused .empty _ Nor.partition?_blank
    exact ⟨r, fits, length, e, ends⟩

end ConfigRecord
end ConnectedDevice
