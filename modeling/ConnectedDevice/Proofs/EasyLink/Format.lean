import ConnectedDevice.Config.System
import ConnectedDevice.Proofs.EasyLink.ExtraData
import ConnectedDevice.Proofs.Text.Limited

/-!
What the reader of extra data accepts. A payload has one of four readings, which depend only on
where its delimiters stand: four bytes before the end, else twenty, else at another distance of
whole words, else nowhere of use. The reader never looks beyond the payload, and the addresses that
it gives fit the fields of the settings.
-/

namespace ConnectedDevice

/-- The bytes from `start` up to `stop`, if there are such. -/
def Bytes.slice? (bs : Bytes) (start stop : Nat) : Option Bytes :=
  if start ≤ stop ∧ stop ≤ bs.length then some ((bs.take stop).drop start) else none

/-- The addresses of a static configuration are short, and the settings take them whole. -/
def StaticIp.Fits (ip : StaticIp) : Prop :=
  (∀ text ∈ [ip.localIp, ip.netmask, ip.gateway, ip.dnsServer], text.utf8ByteSize ≤ 15) ∧
    ∀ c : SystemConfig, c.setStaticIp ip.localIp ip.netmask ip.gateway ip.dnsServer =
      { c with
        dhcpEnable := false
        localIp := ip.localIp
        netmask := ip.netmask
        gateway := ip.gateway
        dnsServer := ip.dnsServer }

namespace ExtraData

/-- The four bytes from `start` on, if there are as many. -/
def word? (bs : Bytes) (start : Nat) : Option Word :=
  match bs.slice? start (start + 4) with
  | some [a, b, c, d] => some ⟨a, b, c, d⟩
  | _ => none

/-- What stands around the delimiter that has `t` bytes after it, and nothing if an access goes
beyond the payload. -/
def readAt? (data : Bytes) (t : Nat) : Option ExtraData := do
  let index ← if t < data.length then some (data.length - (t + 1)) else none
  let auth ← data.slice? 0 index
  let tail ← data.slice? (index + 1) data.length
  let identifier ← word? tail 0
  if t = 20 then
    let localIp ← word? tail 4
    let netmask ← word? tail 8
    let gateway ← word? tail 12
    let dns ← word? tail 16
    return ⟨auth, identifier.number,
      some ⟨localIp.dotted, netmask.dotted, gateway.dotted, dns.dotted⟩⟩
  else return ⟨auth, identifier.number, none⟩

/-- The reader with all its accesses checked: nothing if one of them goes beyond the payload. -/
def parseChecked? (data : Bytes) : Option (Except ExtraDataError ExtraData) :=
  let tails := tails 0 data.reverse
  match tails.find? fun t => t == 4 || t == 20 with
  | some t => (readAt? data t).map .ok
  | none =>
    match tails.find? fun t => 0 < t && t % 4 == 0 with
    | some t => some (.error (.invalidWordCount (t / 4)))
    | none => some (.error .missingDelimiter)

/-- The payload is read as authentication data and the word at its end. -/
def ReadsShort (data : Bytes) : Prop :=
  ∃ identifier, word? data (data.length - 4) = some identifier ∧
    parse data = .ok ⟨data.take (data.length - 5), identifier.number, none⟩

/-- The payload is read as authentication data and the five words at its end. -/
def ReadsLong (data : Bytes) : Prop :=
  ∃ identifier localIp netmask gateway dns,
    word? data (data.length - 20) = some identifier ∧
    word? data (data.length - 16) = some localIp ∧
    word? data (data.length - 12) = some netmask ∧
    word? data (data.length - 8) = some gateway ∧
    word? data (data.length - 4) = some dns ∧
    parse data = .ok ⟨data.take (data.length - 21), identifier.number,
      some ⟨localIp.dotted, netmask.dotted, gateway.dotted, dns.dotted⟩⟩

/-! Places in a payload -/

theorem delimits_iff {data : Bytes} {t : Nat} :
    Delimits data t ↔ ∃ auth tail, data = auth ++ delimiter :: tail ∧ tail.length = t := by
  constructor
  · intro delimits
    have inside : t < data.length := by
      simpa using (List.getElem?_eq_some_iff.mp delimits).1
    have place : data.length - 1 - t = data.length - (t + 1) := by omega
    rw [Delimits, List.getElem?_reverse inside, place] at delimits
    obtain ⟨below, here⟩ := List.getElem?_eq_some_iff.mp delimits
    refine ⟨data.take (data.length - (t + 1)), data.drop (data.length - (t + 1) + 1), ?_, ?_⟩
    · rw [← here, ← List.drop_eq_getElem_cons below, List.take_append_drop]
    · rw [List.length_drop]
      omega
  · rintro ⟨auth, tail, rfl, rfl⟩
    exact delimits_append auth tail

theorem exists_word (bs : Bytes) (enough : 4 ≤ bs.length) :
    ∃ (w : Word) (rest : Bytes), bs = w.bytes ++ rest := by
  match bs, enough with
  | a :: b :: c :: d :: rest, _ => exact ⟨⟨a, b, c, d⟩, rest, rfl⟩

theorem exists_shortTail (tail : Bytes) (length : tail.length = 4) :
    ∃ identifier : Word, tail = identifier.bytes := by
  obtain ⟨identifier, rest, rfl⟩ := exists_word tail (by omega)
  have none : rest = [] := by simpa [Word.bytes] using length
  exact ⟨identifier, by simp [none]⟩

theorem exists_longTail {tail : Bytes} (length : tail.length = 20) :
    ∃ identifier localIp netmask gateway dns : Word,
      tail = identifier.bytes ++ (localIp.bytes ++
        (netmask.bytes ++ (gateway.bytes ++ dns.bytes))) := by
  have shorter {w : Word} {rest : Bytes} : (w.bytes ++ rest).length = rest.length + 4 := by
    simp [Word.bytes]
  obtain ⟨identifier, afterFirst, rfl⟩ := exists_word tail (by omega)
  rw [shorter] at length
  obtain ⟨localIp, afterSecond, rfl⟩ := exists_word afterFirst (by omega)
  rw [shorter] at length
  obtain ⟨netmask, afterThird, rfl⟩ := exists_word afterSecond (by omega)
  rw [shorter] at length
  obtain ⟨gateway, last, rfl⟩ := exists_word afterThird (by omega)
  rw [shorter] at length
  obtain ⟨dns, rfl⟩ := exists_shortTail last (by omega)
  exact ⟨identifier, localIp, netmask, gateway, dns, rfl⟩

theorem word?_append (front tail : Bytes) (start : Nat) :
    word? (front ++ tail) (front.length + start) = word? tail start := by
  have same : Bytes.slice? (front ++ tail) (front.length + start) (front.length + start + 4) =
      tail.slice? start (start + 4) := by
    simp [Bytes.slice?, Nat.add_assoc, List.take_append, List.drop_append, List.drop_eq_nil_of_le]
  rw [word?, same, word?]

theorem word?_tail (auth tail : Bytes) (start : Nat) :
    word? (auth ++ delimiter :: tail) (auth.length + 1 + start) = word? tail start := by
  have moved := word?_append (auth ++ [delimiter]) tail start
  simpa using moved

/-- Both parts around the delimiter exist. -/
theorem readAt?_append (auth tail : Bytes) : readAt? (auth ++ delimiter :: tail) tail.length = (do
    let identifier ← word? tail 0
    if tail.length = 20 then
      let localIp ← word? tail 4
      let netmask ← word? tail 8
      let gateway ← word? tail 12
      let dns ← word? tail 16
      return ⟨auth, identifier.number,
        some ⟨localIp.dotted, netmask.dotted, gateway.dotted, dns.dotted⟩⟩
    else return ⟨auth, identifier.number, none⟩) := by
  have inside : tail.length < (auth ++ delimiter :: tail).length := by
    simp
    omega
  have place : (auth ++ delimiter :: tail).length - (tail.length + 1) = auth.length := by
    simp
  have front : Bytes.slice? (auth ++ delimiter :: tail) 0 auth.length = some auth := by
    simp [Bytes.slice?]
  have back : Bytes.slice? (auth ++ delimiter :: tail) (auth.length + 1)
      (auth ++ delimiter :: tail).length = some tail := by
    rw [Bytes.slice?, if_pos (by simp), List.take_length, List.append_cons,
      List.drop_left' (by simp)]
  simp only [readAt?, if_pos inside, place, Option.bind_eq_bind, Option.bind_some, front, back]

/-! Searches -/

theorem mem_tails {after t : Nat} {bs : Bytes} :
    t ∈ tails after bs ↔ ∃ i, t = after + i ∧ bs[i]? = some delimiter := by
  induction bs generalizing after with
  | nil => simp [tails]
  | cons b rest ih =>
      have later : (∃ i, t = after + i ∧ (b :: rest)[i]? = some delimiter) ↔
          (t = after ∧ b = delimiter) ∨ ∃ i, t = after + 1 + i ∧ rest[i]? = some delimiter := by
        constructor
        · rintro ⟨i, rfl, here⟩
          cases i with
          | zero => exact .inl ⟨rfl, by simpa using here⟩
          | succ i => exact .inr ⟨i, by omega, by simpa using here⟩
        · rintro (⟨rfl, rfl⟩ | ⟨i, rfl, here⟩)
          · exact ⟨0, rfl, rfl⟩
          · exact ⟨i + 1, by omega, by simpa using here⟩
      rw [later, ← ih, tails]
      split <;> simp [*]

/-- The search finds nothing where no delimiter has a tail that is wanted. -/
theorem find?_tails_eq_none {p : Nat → Bool} {data : Bytes} :
    (tails 0 data.reverse).find? p = none ↔ ∀ t, Delimits data t → p t = false := by
  simp [List.find?_eq_none, mem_tails, Delimits]

/-! The four readings -/

variable {data : Bytes}

theorem readsShort_of_delimits (short : Delimits data 4) : ReadsShort data := by
  obtain ⟨auth, tail, rfl, length⟩ := delimits_iff.mp short
  obtain ⟨identifier, rfl⟩ := exists_shortTail _ length
  have form := parse_shortForm auth identifier.number
  rw [shortForm, identifier.ofWord32_number] at form
  have total : (auth ++ delimiter :: identifier.bytes).length = auth.length + 5 := by
    simp [Word.bytes]
  rw [ReadsShort, total, Nat.add_sub_cancel, List.take_left]
  exact ⟨identifier, word?_tail auth identifier.bytes 0, form⟩

theorem readsLong_of_delimits (notShort : ¬Delimits data 4) (long : Delimits data 20) :
    ReadsLong data := by
  obtain ⟨auth, tail, rfl, length⟩ := delimits_iff.mp long
  obtain ⟨identifier, localIp, netmask, gateway, dns, rfl⟩ := exists_longTail length
  have same : auth ++ delimiter :: (identifier.bytes ++ (localIp.bytes ++
      (netmask.bytes ++ (gateway.bytes ++ dns.bytes)))) =
      longForm auth identifier.number localIp netmask gateway dns := by
    simp [longForm, identifier.ofWord32_number]
  have unambiguous : gateway.b3 ≠ delimiter := by
    rwa [same, delimits_longForm] at notShort
  have form := parse_longForm auth identifier.number localIp netmask gateway dns unambiguous
  rw [← same] at form
  have total (tail : Bytes) : (auth ++ delimiter :: tail).length = auth.length + 1 + tail.length := by
    simp
    omega
  rw [ReadsLong, total, length, Nat.add_assoc, Nat.add_sub_cancel, List.take_left]
  have word := word?_tail auth (identifier.bytes ++ (localIp.bytes ++
    (netmask.bytes ++ (gateway.bytes ++ dns.bytes))))
  exact ⟨identifier, localIp, netmask, gateway, dns, word 0, word 4, word 8, word 12, word 16, form⟩

theorem parse_of_neither (notShort : ¬Delimits data 4) (notLong : ¬Delimits data 20) :
    parse data = match (tails 0 data.reverse).find? fun t => 0 < t && t % 4 == 0 with
      | some t => .error (.invalidWordCount (t / 4))
      | none => .error .missingDelimiter := by
  have unfound : (tails 0 data.reverse).find? (fun t => t == 4 || t == 20) = none := by
    refine find?_tails_eq_none.mpr fun t delimits => ?_
    have notFour : t ≠ 4 := fun same => notShort (same ▸ delimits)
    have notTwenty : t ≠ 20 := fun same => notLong (same ▸ delimits)
    simp [notFour, notTwenty]
  have read := parse.eq_def data
  simp only [unfound] at read
  exact read

theorem parse_wordCount (notShort : ¬Delimits data 4) (notLong : ¬Delimits data 20) {k : Nat} :
    parse data = .error (.invalidWordCount k) ↔
      1 ≤ k ∧ Delimits data (4 * k) ∧ ∀ j, 1 ≤ j → j < k → ¬Delimits data (4 * j) := by
  rw [parse_of_neither notShort notLong]
  constructor
  · intro counted
    split at counted
    next t found =>
      obtain ⟨delimits, aligned, first⟩ := (find?_tails_reverse _ _ _).mp found
      have whole : 0 < t ∧ t % 4 = 0 := by simpa using aligned
      have words : t / 4 = k := by simpa using counted
      have same : 4 * k = t := by omega
      refine ⟨by omega, same ▸ delimits, fun j positive below shorter => ?_⟩
      have skipped := first (4 * j) (by omega) shorter
      simp at skipped
      omega
    next => cases counted
  · rintro ⟨positive, delimits, first⟩
    have found : (tails 0 data.reverse).find? (fun t => 0 < t && t % 4 == 0) = some (4 * k) := by
      refine (find?_tails_reverse _ _ _).mpr ⟨delimits, by simp; omega, fun t below shorter => ?_⟩
      refine Bool.eq_false_iff.mpr fun aligned => ?_
      have whole : 0 < t ∧ t % 4 = 0 := by simpa using aligned
      have same : t = 4 * (t / 4) := by omega
      rw [same] at shorter
      exact first (t / 4) (by omega) (by omega) shorter
    have words : 4 * k / 4 = k := by omega
    simp only [found, words]

theorem parse_missing (notShort : ¬Delimits data 4) (notLong : ¬Delimits data 20) :
    parse data = .error .missingDelimiter ↔ ∀ k, 1 ≤ k → ¬Delimits data (4 * k) := by
  rw [parse_of_neither notShort notLong]
  constructor
  · intro missing k positive delimits
    split at missing
    next => cases missing
    next unfound =>
      have skipped := find?_tails_eq_none.mp unfound (4 * k) delimits
      simp at skipped
      omega
  · intro nowhere
    have unfound : (tails 0 data.reverse).find? (fun t => 0 < t && t % 4 == 0) = none := by
      refine find?_tails_eq_none.mpr fun t delimits => ?_
      refine Bool.eq_false_iff.mpr fun aligned => ?_
      have whole : 0 < t ∧ t % 4 = 0 := by simpa using aligned
      have same : t = 4 * (t / 4) := by omega
      rw [same] at delimits
      exact nowhere (t / 4) (by omega) delimits
    simp only [unfound]

/-- Every payload is read in one way. -/
theorem reads (data : Bytes) : (Delimits data 4 ∧ ReadsShort data) ∨
    (¬Delimits data 4 ∧ Delimits data 20 ∧ ReadsLong data) ∨
    (¬Delimits data 4 ∧ ¬Delimits data 20 ∧ ∃ e, parse data = .error e) := by
  by_cases short : Delimits data 4
  · exact .inl ⟨short, readsShort_of_delimits short⟩
  · by_cases long : Delimits data 20
    · exact .inr (.inl ⟨short, long, readsLong_of_delimits short long⟩)
    · refine .inr (.inr ⟨short, long, ?_⟩)
      rw [parse_of_neither short long]
      split
      · exact ⟨_, rfl⟩
      · exact ⟨_, rfl⟩

theorem readsShort_iff : ReadsShort data ↔ Delimits data 4 := by
  refine ⟨fun ⟨_, _, form⟩ => ?_, readsShort_of_delimits⟩
  rcases reads data with ⟨short, -⟩ | ⟨-, -, _, _, _, _, _, -, -, -, -, -, long⟩ | ⟨-, -, e, failed⟩
  · exact short
  · simp [form] at long
  · simp [form] at failed

theorem readsLong_iff : ReadsLong data ↔ ¬Delimits data 4 ∧ Delimits data 20 := by
  refine ⟨fun ⟨_, _, _, _, _, _, _, _, _, _, form⟩ => ?_, fun ⟨notShort, long⟩ =>
    readsLong_of_delimits notShort long⟩
  rcases reads data with ⟨-, _, -, short⟩ | ⟨notShort, long, -⟩ | ⟨-, -, e, failed⟩
  · simp [form] at short
  · exact ⟨notShort, long⟩
  · simp [form] at failed

theorem unread_of_error {e : ExtraDataError} (failed : parse data = .error e) :
    ¬Delimits data 4 ∧ ¬Delimits data 20 := by
  rcases reads data with ⟨-, _, -, form⟩ | ⟨-, -, _, _, _, _, _, -, -, -, -, -, form⟩ |
      ⟨notShort, notLong, -⟩
  · cases form.symm.trans failed
  · cases form.symm.trans failed
  · exact ⟨notShort, notLong⟩

theorem parseChecked?_eq (data : Bytes) : parseChecked? data = some (parse data) := by
  cases found : (tails 0 data.reverse).find? fun t => t == 4 || t == 20 with
  | none =>
      simp only [parseChecked?, parse, found]
      cases (tails 0 data.reverse).find? fun t => 0 < t && t % 4 == 0 <;> rfl
  | some t =>
      obtain ⟨delimits, wanted, first⟩ := (find?_tails_reverse _ _ _).mp found
      obtain ⟨auth, tail, rfl, rfl⟩ := delimits_iff.mp delimits
      have sized : tail.length = 4 ∨ tail.length = 20 := by simpa using wanted
      have shortest (long : tail.length = 20) : ¬Delimits (auth ++ delimiter :: tail) 4 := by
        intro short
        simpa using first 4 (by omega) short
      rw [parse_append auth tail sized shortest]
      simp only [parseChecked?, found, readAt?_append]
      rcases sized with length | length
      · obtain ⟨identifier, rfl⟩ := exists_shortTail _ length
        rfl
      · obtain ⟨identifier, localIp, netmask, gateway, dns, rfl⟩ := exists_longTail length
        rfl

/-! Addresses -/

theorem utf8ByteSize_octet (b : UInt8) : (toString b).utf8ByteSize ≤ 3 := by
  have all : ∀ n < 256, (toString n).utf8ByteSize ≤ 3 := by decide +kernel
  exact all b.toNat b.toNat_lt

theorem Word.utf8ByteSize_dotted (w : Word) : w.dotted.utf8ByteSize ≤ 15 := by
  have first := utf8ByteSize_octet w.b0
  have second := utf8ByteSize_octet w.b1
  have third := utf8ByteSize_octet w.b2
  have fourth := utf8ByteSize_octet w.b3
  have dot : (toString ".").utf8ByteSize = 1 := rfl
  simp only [Word.dotted, String.utf8ByteSize_append, dot]
  omega

theorem fits_dotted (localIp netmask gateway dns : Word) :
    StaticIp.Fits ⟨localIp.dotted, netmask.dotted, gateway.dotted, dns.dotted⟩ := by
  have whole (w : Word) : Text.limited fieldLimits.address w.dotted = w.dotted :=
    Text.limited_of_le (Nat.le_trans w.utf8ByteSize_dotted (by decide))
  refine ⟨?_, fun c => ?_⟩
  · simp [Word.utf8ByteSize_dotted]
  · simp only [SystemConfig.setStaticIp, whole]

theorem fits_of_parse {x : ExtraData} {ip : StaticIp} (read : parse data = .ok x)
    (static : x.staticIp = some ip) : ip.Fits := by
  rcases reads data with ⟨-, _, -, form⟩ |
      ⟨-, -, _, localIp, netmask, gateway, dns, -, -, -, -, -, form⟩ | ⟨-, -, e, failed⟩
  · cases form.symm.trans read
    cases static
  · cases form.symm.trans read
    cases static
    exact fits_dotted localIp netmask gateway dns
  · cases failed.symm.trans read

/-! All payloads -/

/-- Where the delimiters stand decides which of the four readings a payload has. -/
theorem parse_accepts_formats (data : Bytes) :
    parseChecked? data = some (parse data) ∧
      (ReadsShort data ↔ Delimits data 4) ∧
      (ReadsLong data ↔ ¬Delimits data 4 ∧ Delimits data 20) ∧
      (∀ k, parse data = .error (.invalidWordCount k) ↔
        ¬Delimits data 4 ∧ ¬Delimits data 20 ∧
          1 ≤ k ∧ Delimits data (4 * k) ∧ ∀ j, 1 ≤ j → j < k → ¬Delimits data (4 * j)) ∧
      (parse data = .error .missingDelimiter ↔ ∀ k, 1 ≤ k → ¬Delimits data (4 * k)) ∧
      (∀ k, parse data = .error (.invalidWordCount k) → k ≠ 0 ∧ k ≠ 1 ∧ k ≠ 5) ∧
      ∀ x ip, parse data = .ok x → x.staticIp = some ip → StaticIp.Fits ip := by
  have counted (k : Nat) : parse data = .error (.invalidWordCount k) ↔
      ¬Delimits data 4 ∧ ¬Delimits data 20 ∧
        1 ≤ k ∧ Delimits data (4 * k) ∧ ∀ j, 1 ≤ j → j < k → ¬Delimits data (4 * j) := by
    constructor
    · intro failed
      obtain ⟨notShort, notLong⟩ := unread_of_error failed
      exact ⟨notShort, notLong, (parse_wordCount notShort notLong).mp failed⟩
    · rintro ⟨notShort, notLong, least⟩
      exact (parse_wordCount notShort notLong).mpr least
  have missing : parse data = .error .missingDelimiter ↔
      ∀ k, 1 ≤ k → ¬Delimits data (4 * k) := by
    constructor
    · intro failed
      obtain ⟨notShort, notLong⟩ := unread_of_error failed
      exact (parse_missing notShort notLong).mp failed
    · intro nowhere
      exact (parse_missing (nowhere 1 (by decide)) (nowhere 5 (by decide))).mpr nowhere
  refine ⟨parseChecked?_eq data, readsShort_iff, readsLong_iff, counted, missing, ?_,
    fun x ip => fits_of_parse⟩
  intro k failed
  obtain ⟨notShort, notLong, positive, delimits, -⟩ := (counted k).mp failed
  refine ⟨by omega, ?_, ?_⟩
  · rintro rfl
    exact notShort delimits
  · rintro rfl
    exact notLong delimits

/-- Five words, with a delimiter in the identifier and one in the netmask. -/
def fiveWords : Bytes :=
  0x61 :: delimiter :: [0x23, 0, 0, 0] ++ [10, 0, 0, 2] ++ [255, 0x23, 0, 0] ++ [10, 0, 0, 1] ++
    [8, 8, 4, 4]

/-- A peer that puts a slash before each address sends as many bytes as six words take. -/
def slashedAddresses : Bytes :=
  0x61 :: delimiter :: [9, 0, 0, 0] ++ [0x2f, 10, 0, 0, 2] ++ [0x2f, 255, 0, 0, 0] ++
    [0x2f, 10, 0, 0, 1] ++ [0x2f, 8, 8, 4, 4]

theorem parse_accepts_formats_innerDelimiters :
    ReadsLong fiveWords ∧ (∃ x ip, parse fiveWords = .ok x ∧ x.staticIp = some ip ∧ ip.Fits) ∧
      parse slashedAddresses = .error (.invalidWordCount 6) := by
  obtain ⟨-, -, long, -, -, -, fits⟩ := parse_accepts_formats fiveWords
  obtain ⟨-, -, -, counted, -, -, -⟩ := parse_accepts_formats slashedAddresses
  have reads : ReadsLong fiveWords := long.mpr (by decide)
  have nearer : ∀ j < 6, 1 ≤ j → ¬Delimits slashedAddresses (4 * j) := by decide
  have rejected := (counted 6).mpr ⟨by decide, by decide, by decide, by decide,
    fun j positive below => nearer j below positive⟩
  refine ⟨reads, ?_, rejected⟩
  obtain ⟨_, _, _, _, _, -, -, -, -, -, form⟩ := reads
  exact ⟨_, _, form, rfl, fits _ _ form rfl⟩

end ExtraData
end ConnectedDevice
