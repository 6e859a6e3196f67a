import ConnectedDevice.Proofs.Codec.Spellings
import ConnectedDevice.Proofs.Config.Image

/-!
What is read as a flash image. A record has several encodings, which differ in the spelling of their
numbers. An image is read exactly if it frames one of them with its checksum; any other byte string
is cut short, has no mark, or is corrupted, and which of these it is depends on its header alone.
-/

namespace ConnectedDevice

open Reader

/-- All encodings of a boot table: its fields in order, each in one of its spellings. -/
def BootTable.encodings (t : BootTable) : Language UInt8 :=
  Spelling.word32 t.startAddress * Spelling.word32 t.length * {t.version.toList} *
    {[t.imageType]} * {[t.upgradeType]} * Spelling.word16 t.crc * {t.reserved.toList}

def SystemConfig.encodings (c : SystemConfig) : Language UInt8 :=
  Spelling.text c.name * Spelling.text c.ssid * Spelling.text c.userKey * Spelling.text c.key *
    {c.bssid.toList} * {[c.channel]} * Spelling.choice Security.all c.security *
    Spelling.flag c.rfPowerSave * Spelling.flag c.mcuPowerSave * Spelling.flag c.dhcpEnable *
    Spelling.text c.localIp * Spelling.text c.netmask * Spelling.text c.gateway *
    Spelling.text c.dnsServer * Spelling.choice ConfigState.all c.configured *
    Spelling.choice Bypass.all c.bypass * Spelling.word32 c.seed

def ConfigRecord.encodings (r : ConfigRecord) : Language UInt8 :=
  r.bootTable.encodings * r.system.encodings * Spelling.blob r.appConfig

theorem BootTable.accepts_read : Accepts BootTable.read BootTable.encodings := by
  have fields : BootTable.encodings = fun t => Spelling.word32 t.startAddress *
      (Spelling.word32 t.length * ({t.version.toList} * ({[t.imageType]} * ({[t.upgradeType]} *
        (Spelling.word16 t.crc * ({t.reserved.toList} * 1)))))) := by
    funext t
    simp only [encodings, mul_assoc, mul_one]
  rw [fields]
  refine .of_among (.bind startAddress accepts_word32 fun _ => ?_)
  refine .bind length accepts_word32 fun _ => .bind version accepts_array fun _ => ?_
  refine .bind imageType accepts_byte fun _ => .bind upgradeType accepts_byte fun _ => ?_
  refine .bind crc accepts_word16 fun _ => .bind reserved accepts_array fun _ => .pure fun t => ?_
  cases t
  simp [and_assoc]

theorem SystemConfig.accepts_read : Accepts SystemConfig.read SystemConfig.encodings := by
  have fields : SystemConfig.encodings = fun c => Spelling.text c.name *
      (Spelling.text c.ssid * (Spelling.text c.userKey * (Spelling.text c.key *
        ({c.bssid.toList} * ({[c.channel]} * (Spelling.choice Security.all c.security *
          (Spelling.flag c.rfPowerSave * (Spelling.flag c.mcuPowerSave *
            (Spelling.flag c.dhcpEnable * (Spelling.text c.localIp * (Spelling.text c.netmask *
              (Spelling.text c.gateway * (Spelling.text c.dnsServer *
                (Spelling.choice ConfigState.all c.configured *
                  (Spelling.choice Bypass.all c.bypass *
                    (Spelling.word32 c.seed * 1)))))))))))))))) := by
    funext c
    simp only [encodings, mul_assoc, mul_one]
  rw [fields]
  refine .of_among (.bind name accepts_text fun _ => .bind ssid accepts_text fun _ => ?_)
  refine .bind userKey accepts_text fun _ => .bind key accepts_text fun _ => ?_
  refine .bind bssid accepts_array fun _ => .bind channel accepts_byte fun _ => ?_
  refine .bind security (accepts_choice _) fun _ => .bind rfPowerSave accepts_flag fun _ => ?_
  refine .bind mcuPowerSave accepts_flag fun _ => .bind dhcpEnable accepts_flag fun _ => ?_
  refine .bind localIp accepts_text fun _ => .bind netmask accepts_text fun _ => ?_
  refine .bind gateway accepts_text fun _ => .bind dnsServer accepts_text fun _ => ?_
  refine .bind configured (accepts_choice _) fun _ => .bind bypass (accepts_choice _) fun _ => ?_
  refine .bind seed accepts_word32 fun _ => .pure fun c => ?_
  cases c
  simp [and_assoc]

namespace ConfigRecord

theorem accepts_read : Accepts read encodings := by
  have fields : encodings = fun r : ConfigRecord => r.bootTable.encodings *
      (r.system.encodings * (Spelling.blob r.appConfig * 1)) := by
    funext r
    simp only [encodings, mul_assoc, mul_one]
  rw [fields]
  refine .of_among (.bind bootTable BootTable.accepts_read fun _ => ?_)
  refine .bind system SystemConfig.accepts_read fun _ => ?_
  refine .bind appConfig accepts_blob fun _ => .pure fun r => ?_
  cases r
  simp [and_assoc]

/-- What is written is one of the encodings. -/
theorem encode_mem_encodings (r : ConfigRecord) (fits : r.encode.length < UInt64.size) :
    r.encode ∈ r.encodings := by
  obtain ⟨bs, spelled, whole⟩ := (accepts_read _ _ _).mp (r.read_encode fits [])
  simp only [List.append_nil] at whole
  rwa [whole]

/-! ## Images -/

/-- The image holds the payload after the mark and the payload's length, and anything behind. -/
def Framed (image payload : Bytes) : Prop :=
  ∃ (length : UInt32) (behind : Bytes),
    image = Bytes.ofWord32 magic ++ Bytes.ofWord32 length ++ payload ++ behind ∧
      payload.length = length.toNat

/-- The payload begins with the fields and their checksum. -/
def Sealed (payload fields : Bytes) : Prop :=
  ∃ junk, payload = fields ++ Bytes.ofWord32 (crc32 fields) ++ junk

/-- The image holds an encoding of the record with its checksum. -/
def Carries (image : Bytes) (r : ConfigRecord) : Prop :=
  ∃ payload fields, Framed image payload ∧ Sealed payload fields ∧ fields ∈ r.encodings

/-- There is no whole header, or the mark stands before fewer bytes than the header announces. -/
def CutShort (image : Bytes) : Prop :=
  image.length < 8 ∨ ∃ (length : UInt32) (rest : Bytes),
    image = Bytes.ofWord32 magic ++ Bytes.ofWord32 length ++ rest ∧ rest.length < length.toNat

/-- There is a whole header, but it does not begin with the mark. -/
def Unmarked (image : Bytes) : Prop :=
  8 ≤ image.length ∧ image.take 4 ≠ Bytes.ofWord32 magic

theorem ofPayload?_eq_some {payload : Bytes} {r : ConfigRecord} :
    ofPayload? payload = some r ↔ ∃ fields ∈ r.encodings, Sealed payload fields := by
  constructor
  · intro accepted
    simp only [ofPayload?, Option.bind_eq_bind, Option.bind_eq_some_iff, Prod.exists] at accepted
    obtain ⟨r', rest, taken, checked⟩ := accepted
    obtain ⟨fields, encoded, rfl⟩ := (accepts_read _ _ _).mp taken
    rw [List.length_append, Nat.add_sub_cancel, List.take_left] at checked
    split at checked
    next a b c d junk =>
      simp only [Option.ite_none_right_eq_some, Option.some.injEq] at checked
      obtain ⟨sum, rfl⟩ := checked
      exact ⟨fields, encoded, junk, by simp [← sum, Bytes.ofWord32_word32]⟩
    next => cases checked
  · rintro ⟨fields, encoded, junk, rfl⟩
    have taken := (accepts_read _ _ _).mpr
      ⟨fields, encoded, List.append_assoc fields (Bytes.ofWord32 (crc32 fields)) junk⟩
    have front : (fields ++ Bytes.ofWord32 (crc32 fields) ++ junk).length -
        (Bytes.ofWord32 (crc32 fields) ++ junk).length = fields.length := by
      simp only [List.length_append]
      omega
    simp only [ofPayload?, taken, Option.bind_eq_bind, Option.bind_some, front]
    simp [Bytes.ofWord32, Bytes.word32_ofWord32]

theorem exists_header {image : Bytes} (whole : 8 ≤ image.length) :
    ∃ (mark length : UInt32) (rest : Bytes),
      image = Bytes.ofWord32 mark ++ Bytes.ofWord32 length ++ rest := by
  match image, whole with
  | m0 :: m1 :: m2 :: m3 :: l0 :: l1 :: l2 :: l3 :: rest, _ =>
    refine ⟨Bytes.word32 m0 m1 m2 m3, Bytes.word32 l0 l1 l2 l3, rest, ?_⟩
    rw [Bytes.ofWord32_word32, Bytes.ofWord32_word32]
    rfl

theorem take_header (mark length : UInt32) (rest : Bytes) :
    (Bytes.ofWord32 mark ++ Bytes.ofWord32 length ++ rest).take 4 = Bytes.ofWord32 mark := rfl

/-- What an image with a whole header is read as. -/
theorem ofImage_header (mark length : UInt32) (rest : Bytes) :
    ofImage (Bytes.ofWord32 mark ++ Bytes.ofWord32 length ++ rest) =
      if mark ≠ magic then .error .badMagic
      else if rest.length < length.toNat then .error .truncated
      else (ofPayload? (rest.take length.toNat)).elim (.error .corrupted) .ok := by
  simp only [ofImage, Bytes.ofWord32, List.cons_append, List.nil_append, Bytes.word32_ofWord32]
  cases ofPayload? (rest.take length.toNat) <;> rfl

theorem ofImage_of_framed {image payload : Bytes} (framed : Framed image payload) :
    ofImage image = (ofPayload? payload).elim (.error .corrupted) .ok := by
  obtain ⟨length, behind, rfl, announced⟩ := framed
  have enough : ¬(payload ++ behind).length < length.toNat := by simp [announced]
  rw [List.append_assoc, ofImage_header, if_neg (not_not_intro rfl), if_neg enough, ← announced,
    List.take_left]

theorem ofImage_of_cutShort {image : Bytes} (short : CutShort image) :
    ofImage image = .error .truncated := by
  rcases short with short | ⟨length, rest, rfl, short⟩
  · unfold ofImage
    split
    next =>
      simp only [List.length_cons] at short
      omega
    next => rfl
  · rw [ofImage_header, if_neg (not_not_intro rfl), if_pos short]

theorem ofImage_of_unmarked {image : Bytes} (unmarked : Unmarked image) :
    ofImage image = .error .badMagic := by
  obtain ⟨whole, other⟩ := unmarked
  obtain ⟨mark, length, rest, rfl⟩ := exists_header whole
  rw [ofImage_header, if_pos]
  rintro rfl
  exact other (take_header ..)

/-- The header decides which of the three an image is. -/
theorem header_cases (image : Bytes) :
    CutShort image ∨ Unmarked image ∨ ∃ payload, Framed image payload := by
  by_cases whole : 8 ≤ image.length
  · by_cases marked : image.take 4 = Bytes.ofWord32 magic
    · obtain ⟨mark, length, rest, rfl⟩ := exists_header whole
      rw [take_header] at marked
      rw [marked]
      by_cases short : rest.length < length.toNat
      · exact .inl (.inr ⟨length, rest, rfl, short⟩)
      · refine .inr (.inr ⟨rest.take length.toNat, length, rest.drop length.toNat, ?_, ?_⟩)
        · rw [List.append_assoc _ (rest.take _), List.take_append_drop]
        · rw [List.length_take]
          omega
    · exact .inr (.inl ⟨whole, marked⟩)
  · exact .inl (.inl (by omega))

theorem ofImage_eq_ok_iff {image : Bytes} {r : ConfigRecord} :
    ofImage image = .ok r ↔ Carries image r := by
  constructor
  · intro accepted
    rcases header_cases image with short | unmarked | ⟨payload, framed⟩
    · cases (ofImage_of_cutShort short).symm.trans accepted
    · cases (ofImage_of_unmarked unmarked).symm.trans accepted
    · rw [ofImage_of_framed framed] at accepted
      cases found : ofPayload? payload with
      | none => simp [found] at accepted
      | some r' =>
          obtain ⟨fields, encoded, checked⟩ := ofPayload?_eq_some.mp found
          simp only [found, Option.elim_some, Except.ok.injEq] at accepted
          exact ⟨payload, fields, framed, checked, accepted ▸ encoded⟩
  · rintro ⟨payload, fields, framed, checked, encoded⟩
    rw [ofImage_of_framed framed, ofPayload?_eq_some.mpr ⟨fields, encoded, checked⟩]
    rfl

theorem ofImage_eq_truncated_iff {image : Bytes} :
    ofImage image = .error .truncated ↔ CutShort image := by
  refine ⟨fun refused => ?_, ofImage_of_cutShort⟩
  rcases header_cases image with short | unmarked | ⟨payload, framed⟩
  · exact short
  · cases (ofImage_of_unmarked unmarked).symm.trans refused
  · rw [ofImage_of_framed framed] at refused
    cases found : ofPayload? payload <;> simp [found] at refused

theorem ofImage_eq_badMagic_iff {image : Bytes} :
    ofImage image = .error .badMagic ↔ Unmarked image := by
  refine ⟨fun refused => ?_, ofImage_of_unmarked⟩
  rcases header_cases image with short | unmarked | ⟨payload, framed⟩
  · cases (ofImage_of_cutShort short).symm.trans refused
  · exact unmarked
  · rw [ofImage_of_framed framed] at refused
    cases found : ofPayload? payload <;> simp [found] at refused

/-- Reading fails in three ways only. -/
theorem ofImage_cases (image : Bytes) :
    (∃ r, ofImage image = .ok r) ∨ ofImage image = .error .truncated ∨
      ofImage image = .error .badMagic ∨ ofImage image = .error .corrupted := by
  rcases header_cases image with short | unmarked | ⟨payload, framed⟩
  · exact .inr (.inl (ofImage_of_cutShort short))
  · exact .inr (.inr (.inl (ofImage_of_unmarked unmarked)))
  · rw [ofImage_of_framed framed]
    cases ofPayload? payload <;> simp

theorem ofImage_eq_corrupted_iff {image : Bytes} :
    ofImage image = .error .corrupted ↔
      ¬CutShort image ∧ ¬Unmarked image ∧ ∀ r, ¬Carries image r := by
  rw [← ofImage_eq_truncated_iff, ← ofImage_eq_badMagic_iff]
  simp only [← ofImage_eq_ok_iff]
  constructor
  · intro refused
    simp [refused]
  · rintro ⟨whole, marked, unread⟩
    rcases ofImage_cases image with ⟨r, accepted⟩ | refused | refused | refused
    · exact absurd accepted (unread r)
    · exact absurd refused whole
    · exact absurd refused marked
    · exact refused

/-- An image that ends early holds fewer bytes than it announces. -/
theorem cutShort_of_written {r : ConfigRecord} {front lost : Bytes}
    (written : r.toImage = .ok (front ++ lost)) (cut : lost ≠ []) : CutShort front := by
  obtain ⟨fits, parts⟩ := (r.toImage_eq_ok_iff _).mp written
  have announced : r.payload.length.toUInt32.toNat = r.payload.length :=
    UInt32.toNat_ofNat_of_lt' fits
  by_cases whole : 8 ≤ front.length
  · have header :
        (Bytes.ofWord32 magic ++ Bytes.ofWord32 r.payload.length.toUInt32).length = 8 := by
      simp
    have place := List.append_eq_append_iff.mp parts
    have behind : ∃ rest,
        front = Bytes.ofWord32 magic ++ Bytes.ofWord32 r.payload.length.toUInt32 ++ rest ∧
        r.payload = rest ++ lost := by
      rcases place with ⟨missing, front', lost'⟩ | ⟨rest, front', payload'⟩
      · have none : missing = [] := by
          rw [front', List.length_append] at header
          exact List.eq_nil_of_length_eq_zero (by omega)
        subst none
        exact ⟨[], by simpa using front'.symm, by simpa using lost'.symm⟩
      · exact ⟨rest, front', payload'⟩
    obtain ⟨rest, rfl, payload⟩ := behind
    refine .inr ⟨_, rest, rfl, ?_⟩
    have lost := List.length_pos_of_ne_nil cut
    rw [announced, payload, List.length_append]
    omega
  · exact .inl (by omega)

/-- An image is read as a record exactly if it carries an encoding of it, and every other byte
string has one of three errors. What is left of an image that was cut off is cut short. -/
theorem ofImage_classifies (image : Bytes) :
    (∀ r, ofImage image = .ok r ↔ Carries image r) ∧
    (ofImage image = .error .truncated ↔ CutShort image) ∧
    (ofImage image = .error .badMagic ↔ Unmarked image) ∧
    (ofImage image = .error .corrupted ↔
      ¬CutShort image ∧ ¬Unmarked image ∧ ∀ r, ¬Carries image r) ∧
    ofImage image ≠ .error .encode ∧ ofImage image ≠ .error .tooLarge ∧
    ∀ (r : ConfigRecord) (lost : Bytes), r.toImage = .ok (image ++ lost) → lost ≠ [] →
      ofImage image = .error .truncated := by
  refine ⟨fun r => ofImage_eq_ok_iff, ofImage_eq_truncated_iff, ofImage_eq_badMagic_iff,
    ofImage_eq_corrupted_iff, ?_, ?_, fun r lost written cut => ?_⟩
  · rcases ofImage_cases image with ⟨r, result⟩ | result | result | result <;> simp [result]
  · rcases ofImage_cases image with ⟨r, result⟩ | result | result | result <;> simp [result]
  · exact ofImage_of_cutShort (cutShort_of_written written cut)

/-- The image of a record that writes its first number, a zero, with a needless group. -/
def needlessGroup : Bytes :=
  let fields := 0x80 :: (factory "" 0 0).encode
  Bytes.ofWord32 magic ++ Bytes.ofWord32 (fields.length + 4).toUInt32 ++ fields ++
    Bytes.ofWord32 (crc32 fields)

def sampleImage : Bytes :=
  Bytes.ofWord32 magic ++ Bytes.ofWord32 sampleRecord.payload.length.toUInt32 ++
    sampleRecord.payload

theorem ofImage_classifies_samples :
    Carries needlessGroup (factory "" 0 0) ∧ (factory "" 0 0).toImage ≠ .ok needlessGroup ∧
      ofImage (sampleImage.take 12) = .error .truncated := by
  obtain ⟨accepted, -⟩ := ofImage_classifies needlessGroup
  obtain ⟨-, -, -, -, -, -, cut⟩ := ofImage_classifies (sampleImage.take 12)
  have written : sampleRecord.toImage = .ok (sampleImage.take 12 ++ sampleImage.drop 12) := by
    rw [List.take_append_drop]
    exact (sampleRecord.toImage_eq_ok_iff _).mpr ⟨by decide +kernel, rfl⟩
  have read : ofImage needlessGroup = .ok (factory "" 0 0) := by decide +kernel
  exact ⟨(accepted _).mp read, by decide +kernel, cut _ _ written (by decide +kernel)⟩

end ConfigRecord
end ConnectedDevice
