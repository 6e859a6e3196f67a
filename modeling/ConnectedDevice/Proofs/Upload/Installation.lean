import ConnectedDevice.Proofs.Store
import ConnectedDevice.Proofs.Upload.Receive

/-!
Uploads that nothing disturbs. What the device makes of the bytes that have arrived depends on these
bytes alone and not on the chunks that brought them. So an image is installed as it was sent,
whatever the partition held before.
-/

namespace ConnectedDevice

/-- The configuration partition has room for the image of the record. -/
def Settings.Fits (st : Settings) (f : Nor) : Prop :=
  ∃ image r, st.record.toImage = .ok image ∧ f.region? .config = some r ∧
    image.length ≤ r.cells.size

/-- The site once the bytes have arrived. No byte at all leaves the partition as it is. -/
def Site.received (s : Site) (info : PartitionInfo) (sent : Bytes) : Site :=
  if sent.isEmpty then s else s.setFlash (s.board.flash.setRegion (.holding info sent) .otaTemp)

theorem Site.device_received (s : Site) (info : PartitionInfo) (sent : Bytes) :
    (s.received info sent).device = s.device := by
  unfold received
  split <;> rfl

theorem Site.refusing_received (s : Site) (info : PartitionInfo) (sent : Bytes) :
    (s.received info sent).board.flash.refusing = s.board.flash.refusing := by
  unfold received
  split
  · rfl
  · exact Nor.setRegion_refusing _

/-- Other settings are in memory. -/
def Site.remember (s : Site) (st : Settings) : Site :=
  { s with device := { s.device with store := s.device.store.set st } }

theorem Fallible.ofExcept_bind {α β : Type} {x : Except Error α} {a : α} (ok : x = .ok a)
    (rest : α → Fallible β) : ofExcept x >>= rest = rest a := by
  subst ok
  rfl

theorem Act.commit_remember (s : Site) (st : Settings) : Act.commit.run (s.remember st) =
    ((st.commit s.board.flash).1, (s.remember st).setFlash (st.commit s.board.flash).2) :=
  rfl

namespace Upload

/-- An upload once the bytes have arrived. -/
def after (info : PartitionInfo) (declared : Option Nat) (sent : Bytes) : Upload :=
  ⟨info, declared, ⟨crc16 sent, sent.length⟩⟩

/-- The bytes are a whole image, as far as its sender told its length, and the partition has room
for it. -/
structure Complete (info : PartitionInfo) (declared : Option Nat) (image : Bytes) : Prop where
  nonempty : 0 < image.length
  room : image.length ≤ info.size
  announced : declared = none ∨ declared = some image.length

/-- The boot table that names an image at the front of a partition. -/
def tableOf (info : PartitionInfo) (image : Bytes) : BootTable :=
  .upgrade info.startAddress image.length.toUInt32 (crc16 image)

/-- Ends an upload by other means to write the record. -/
def finishWith (u : Upload) (commits : Fallible Unit) : Fallible Nat := do
  let table ← Fallible.ofExcept u.bootTable
  Act.setSettings (install table (← Act.settings))
  commits
  Act.requestPower .softwareReset
  return u.received.size

theorem finish_eq (u : Upload) : u.finish = u.finishWith Act.commit := rfl

section Arrival

variable {s : Site} {r : Region} {declared : Option Nat} {sent chunk : Bytes}

/-- The first bytes find the partition erased, whatever it held. -/
theorem programmed_first (fits : chunk.length ≤ r.info.size) :
    (after r.info declared []).programmed chunk r = .holding r.info chunk := by
  have blank : (Region.blank r.info).cells = (Region.holding r.info []).cells := by
    simp [Region.blank, Region.holding]
  have room : ([] : Bytes).length + chunk.length ≤ r.info.size := by simpa using fits
  have written := Region.program_holding room
  simp only [List.length_nil, List.nil_append] at written
  simp only [programmed, after, List.length_nil, Crc16.isEmpty, BEq.rfl, if_true, blank, written]
  rfl

theorem programmed_next (begun : sent ≠ []) (fits : sent.length + chunk.length ≤ r.info.size) :
    (after r.info declared sent).programmed chunk (.holding r.info sent) =
      .holding r.info (sent ++ chunk) := by
  have started : (Crc16.mk (crc16 sent) sent.length).isEmpty = false := by
    simpa [Crc16.isEmpty] using begun
  simp only [programmed, after, started, Bool.false_eq_true, if_false,
    Region.program_holding fits]
  rfl

theorem receive_after (region : s.board.flash.region? .otaTemp = some r)
    (accepting : s.board.flash.refusing = false)
    (fits : sent.length + chunk.length ≤ r.info.size) :
    ((after r.info declared sent).receive chunk).run (s.received r.info sent) =
      (.ok (after r.info declared (sent ++ chunk)), s.received r.info (sent ++ chunk)) := by
  by_cases empty : chunk = []
  · rw [empty, List.append_nil, receive_nil]
  · have arrived : s.received r.info (sent ++ chunk) =
        s.setFlash (s.board.flash.setRegion (.holding r.info (sent ++ chunk)) .otaTemp) := by
      simp [Site.received, empty]
    by_cases first : sent = []
    · subst first
      have written := receive_written (u := after r.info declared []) region rfl empty fits
        accepting
      rw [programmed_first (by simpa using fits)] at written
      rw [arrived]
      simpa [Site.received, after, Crc16.update, crc16] using written
    · have before : s.received r.info sent =
          s.setFlash (s.board.flash.setRegion (.holding r.info sent) .otaTemp) := by
        simp [Site.received, first]
      have held : (s.received r.info sent).board.flash.region? .otaTemp =
          some (.holding r.info sent) := by
        simp [before, Site.setFlash]
      have info : (after r.info declared sent).target = (Region.holding r.info sent).info := by
        rw [Region.info_holding (by omega)]
        rfl
      have written := receive_written held info empty fits
        ((s.refusing_received r.info sent).trans accepting)
      rw [written, programmed_next first fits, arrived, before]
      simp only [after, Crc16.update_crc16, Site.setFlash, Nor.setRegion_setRegion]

variable (sent) in
/-- How much has arrived counts, and not how many chunks it took. -/
theorem receiveRest_after (fault : Option String) {chunks : List Bytes}
    (region : s.board.flash.region? .otaTemp = some r)
    (accepting : s.board.flash.refusing = false)
    (fits : (sent ++ chunks.flatten).length ≤ r.info.size) :
    ((after r.info declared sent).receiveRest fault chunks).run (s.received r.info sent) =
      ((after r.info declared (sent ++ chunks.flatten)).receiveRest fault []).run
        (s.received r.info (sent ++ chunks.flatten)) := by
  induction chunks generalizing sent with
  | nil => rw [List.flatten_nil, List.append_nil]
  | cons chunk chunks ih =>
      rw [List.flatten_cons, ← List.append_assoc] at fits ⊢
      have room : (sent ++ chunk).length ≤ r.info.size := by
        rw [List.length_append] at fits
        omega
      rw [receiveRest, Fallible.bind_apply,
        receive_after region accepting (by rwa [List.length_append] at room)]
      exact ih _ fits

variable (declared sent) in
theorem receiveRest_tooLarge (fault : Option String) {chunks : List Bytes}
    (region : s.board.flash.region? .otaTemp = some r)
    (accepting : s.board.flash.refusing = false) (room : sent.length ≤ r.info.size)
    (large : r.info.size < (sent ++ chunks.flatten).length) :
    (((after r.info declared sent).receiveRest fault chunks).run (s.received r.info sent)).1 =
      .error (.uploadTooLarge r.info.size) := by
  induction chunks generalizing sent with
  | nil =>
      rw [List.flatten_nil, List.append_nil] at large
      omega
  | cons chunk chunks ih =>
      rw [List.flatten_cons, ← List.append_assoc] at large
      rw [receiveRest, Fallible.bind_apply]
      by_cases fits : sent.length + chunk.length ≤ r.info.size
      · rw [receive_after region accepting fits]
        exact ih _ (by rwa [List.length_append]) large
      · have nonempty : chunk ≠ [] := by
          rintro rfl
          exact fits room
        rw [receive_tooLarge nonempty (Nat.lt_of_not_le fits)]
        rfl

theorem start_after (region : s.board.flash.region? .otaTemp = some r) (declared : Option Nat) :
    (∃ length, declared = some length ∧ r.info.size < length ∧
        (start declared).run s = (.error (.announcedTooLarge length r.info.size), s)) ∨
      (start declared).run s = (.ok (after r.info declared []), s) := by
  have target : s.board.flash.partition? .otaTemp = some r.info := by
    simp [Nor.partition?, region]
  have here : (get : Fallible Site).run s = (.ok s, s) := rfl
  rw [start, Fallible.bind_apply, here]
  dsimp only
  rw [target]
  cases declared with
  | none => exact .inr rfl
  | some length =>
      by_cases large : r.info.size < length
      · refine .inl ⟨length, rfl, large, ?_⟩
        simp only [large, if_true]
        rfl
      · refine .inr ?_
        simp only [large, if_false]
        rfl

end Arrival

section Finish

variable {s : Site} {st : Settings} {info : PartitionInfo} {declared : Option Nat} {image : Bytes}

theorem bootTable_of_complete (complete : Complete info declared image)
    (small : image.length < UInt32.size) :
    (after info declared image).bootTable = .ok (tableOf info image) := by
  have arrived : (Crc16.mk (crc16 image) image.length).isEmpty = false := by
    simpa [Crc16.isEmpty] using List.length_pos_iff.mp complete.nonempty
  rcases complete.announced with rfl | rfl <;>
    simp [bootTable, after, arrived, Nat.not_le.mpr small, tableOf, pure, Except.pure]

theorem complete_of_bootTable {t : BootTable} (room : image.length ≤ info.size)
    (named : (after info declared image).bootTable = .ok t) :
    Complete info declared image ∧ t = tableOf info image := by
  obtain ⟨rfl, nonempty, -⟩ := bootTable_eq_ok named
  refine ⟨⟨nonempty, room, ?_⟩, rfl⟩
  cases declared with
  | none => exact .inl rfl
  | some length =>
      by_cases same : image.length = length
      · exact .inr (congrArg some same.symm)
      · simp only [bootTable, after, ne_eq, same, not_false_eq_true, if_true, bind, Except.bind,
          throw, throwThe, MonadExceptOf.throw] at named
        split at named <;> cases named

variable {u : Upload} {t : BootTable} {commits : Fallible Unit}

theorem finishWith_of_unnamed {e : Error} (unnamed : u.bootTable = .error e) :
    (u.finishWith commits).run s = (.error e, s) := by
  rw [finishWith, unnamed]
  rfl

theorem finishWith_of_unloaded (named : u.bootTable = .ok t)
    (unloaded : s.device.store.loaded = none) :
    (u.finishWith commits).run s = (.error .storeNotInitialized, s) := by
  rw [finishWith, Fallible.ofExcept_bind named, Fallible.bind_apply, Act.settings_of_unloaded unloaded]

theorem finishWith_of_named (named : u.bootTable = .ok t)
    (loaded : s.device.store.loaded = some st) :
    (u.finishWith commits).run s =
      match commits.run (s.remember (install t st)) with
      | (.ok (), done) => (.ok u.received.size,
          { done with
            device := { done.device with
              power := done.device.power.request .softwareReset } })
      | (.error e, stopped) => (.error e, stopped) := by
  rw [finishWith, Fallible.ofExcept_bind named, Fallible.bind_apply, Act.settings_of_loaded loaded]
  change (commits >>= fun _ => (liftM (Act.requestPower .softwareReset) >>= fun _ =>
    pure u.received.size : Fallible Nat)).run (s.remember (install t st)) = _
  rw [Fallible.bind_apply]
  rcases commits.run (s.remember (install t st)) with ⟨answer, done⟩
  cases answer <;> rfl

end Finish

section Whole

variable {s : Site} {st : Settings} {r c : Region} {declared : Option Nat} {chunks : List Bytes}

/-- An upload arrives whole unless it is too large, or announced as too large. -/
theorem receiveAll_arrives (fault : Option String)
    (region : s.board.flash.region? .otaTemp = some r)
    (accepting : s.board.flash.refusing = false) :
    (∃ e, ((receiveAll declared chunks fault).run s).1 = .error e ∧
        ¬Complete r.info declared chunks.flatten) ∨
      chunks.flatten.length ≤ r.info.size ∧ (receiveAll declared chunks fault).run s =
        ((after r.info declared chunks.flatten).receiveRest fault []).run
          (s.received r.info chunks.flatten) := by
  rw [receiveAll, Fallible.bind_apply]
  rcases start_after region declared with ⟨length, rfl, large, failed⟩ | opened
  · refine .inl ⟨_, by rw [failed], fun complete => ?_⟩
    rcases complete.announced with absent | same
    · cases absent
    · cases same
      exact Nat.not_lt.mpr complete.room large
  · rw [opened]
    by_cases room : chunks.flatten.length ≤ r.info.size
    · exact .inr ⟨room, receiveRest_after [] fault region accepting room⟩
    · have failed := receiveRest_tooLarge declared [] fault region accepting
        (Nat.zero_le _) (Nat.lt_of_not_le room)
      exact .inl ⟨_, failed, fun complete => room complete.room⟩

theorem complete_of_receiveAll {n : Nat} (region : s.board.flash.region? .otaTemp = some r)
    (accepting : s.board.flash.refusing = false)
    (received : ((receiveAll declared chunks none).run s).1 = .ok n) :
    Complete r.info declared chunks.flatten := by
  rcases receiveAll_arrives none region accepting with ⟨e, failed, -⟩ | ⟨room, arrives⟩
  · rw [failed] at received
    cases received
  · rw [arrives, receiveRest, finish_eq] at received
    cases named : (after r.info declared chunks.flatten).bootTable with
    | error e =>
        rw [finishWith_of_unnamed named] at received
        cases received
    | ok t => exact (complete_of_bootTable room named).1

/-- All that a complete upload does. -/
theorem receiveAll_of_complete {record : Bytes}
    (loaded : s.device.store.loaded = some st)
    (region : s.board.flash.region? .otaTemp = some r) (small : r.info.size < UInt32.size)
    (accepting : s.board.flash.refusing = false)
    (complete : Complete r.info declared chunks.flatten)
    (written : (install (tableOf r.info chunks.flatten) st).record.toImage = .ok record)
    (config : s.board.flash.region? .config = some c) (fits : record.length ≤ c.cells.size) :
    (receiveAll declared chunks none).run s =
      (.ok chunks.flatten.length,
        { s with
          board := { s.board with
            flash := (s.board.flash.setRegion (.holding r.info chunks.flatten) .otaTemp).setRegion
              (Settings.imageRegion c record) .config }
          device := { s.device with
            store := s.device.store.set (install (tableOf r.info chunks.flatten) st)
            power := s.device.power.request .softwareReset } }) := by
  have arrived : s.received r.info chunks.flatten =
      s.setFlash (s.board.flash.setRegion (.holding r.info chunks.flatten) .otaTemp) := by
    simp [Site.received, List.length_pos_iff.mp complete.nonempty]
  have named := bootTable_of_complete complete (Nat.lt_of_le_of_lt complete.room small)
  have stored := Settings.commit_written (install (tableOf r.info chunks.flatten) st)
    (s.board.flash.setRegion (.holding r.info chunks.flatten) .otaTemp) written
    (r := c) (by simpa using config) fits (by simpa [Nor.setRegion_refusing] using accepting)
  rcases receiveAll_arrives none region accepting with ⟨e, -, incomplete⟩ | ⟨-, arrives⟩
  · exact absurd complete incomplete
  · have memory : (s.received r.info chunks.flatten).device.store.loaded = some st := by
      rwa [Site.device_received]
    rw [arrives, receiveRest, finish_eq, finishWith_of_named named memory,
      Act.commit_remember, arrived]
    simp only [Site.setFlash] at stored ⊢
    simp only [stored]
    rfl

/-- An upload installs the image that was sent, whatever chunks it came in and whatever the
partition held, or it is rejected. -/
theorem receiveAll_installs (s : Site) (st : Settings) (r : Region) (declared : Option Nat)
    (chunks : List Bytes) (loaded : s.device.store.loaded = some st)
    (region : s.board.flash.region? .otaTemp = some r) (small : r.cells.size < UInt32.size)
    (accepting : s.board.flash.refusing = false)
    (fits : (install (tableOf r.info chunks.flatten) st).Fits s.board.flash) :
    let image := chunks.flatten
    ∃ answer t, (receiveAll declared chunks none).run s = (answer, t) ∧
      (answer = .ok image.length ↔
        0 < image.length ∧ image.length ≤ r.cells.size ∧
          (declared = none ∨ declared = some image.length)) ∧
      ∀ n, answer = .ok n →
        n = image.length ∧
        t.board.flash.contents? .otaTemp =
          some (image ++ List.replicate (r.cells.size - image.length) erased) ∧
        (∃ after, t.device.store.loaded = some after ∧
          t.board.flash.stored? = some after.record ∧ after.status = st.status ∧
          after.record = { st.record with
            bootTable := .upgrade r.startAddress image.length.toUInt32 (crc16 image)
            system := { st.record.system with
              bypass := if st.record.system.configured = .allConfigured
                then st.record.system.bypass else .softAp } }) ∧
        t.device.power = s.device.power.request .softwareReset := by
  obtain ⟨record, c, written, config, room⟩ := fits
  have all (complete : Complete r.info declared chunks.flatten) :=
    receiveAll_of_complete loaded region small accepting complete written config room
  have done {n : Nat} (received : ((receiveAll declared chunks none).run s).1 = .ok n) :=
    complete_of_receiveAll region accepting received
  generalize (receiveAll declared chunks none).run s = ran at all done ⊢
  refine ⟨ran.1, ran.2, rfl, ⟨fun received => ?_, fun ⟨nonempty, room, announced⟩ => ?_⟩,
    fun n received => ?_⟩
  · obtain ⟨nonempty, room, announced⟩ := done received
    exact ⟨nonempty, room, announced⟩
  · rw [all ⟨nonempty, room, announced⟩]
  · have back := ConfigRecord.ofImage_append written
      (List.replicate (c.cells.size - record.length) erased)
    obtain rfl := all (done received)
    cases received
    refine ⟨rfl, ?_, ⟨_, rfl, ?_, rfl, rfl⟩, rfl⟩
    · simp [Nor.contents?, Region.holding, Region.info]
    · simp [Nor.stored?, Nor.contents?, Settings.imageRegion, back, Except.toOption]

def usedRegion : Region := ⟨0x88000, #[0x00, 0x11, 0x22, 0x33]⟩

def newSettings : Settings := ⟨.factory "Kitchen" 1 0, .empty⟩

/-- A new device whose partition for received images holds something else. -/
def usedSite (config : Region) : Site :=
  let flash := ((Nor.blank []).setRegion usedRegion .otaTemp).setRegion config .config
  let hardware : Hardware := ⟨.error .stopped, .error .stopped, fun _ => .ok (), .ok⟩
  let device := Device.make .standard .product false
  ⟨0, .make flash 8 hardware, { device with store := (Store.make "Kitchen" 1).set newSettings }, []⟩

theorem receiveAll_installs_chunked :
    ∃ t, (receiveAll (some 3) [[0xA1], [], [0xB2, 0xC3]] none).run
        (usedSite (.blank ⟨0x4000, 96⟩)) = (.ok 3, t) ∧
      t.board.flash.contents? .otaTemp = some [0xA1, 0xB2, 0xC3, 0xFF] := by
  have fits : (install (tableOf usedRegion.info [0xA1, 0xB2, 0xC3]) newSettings).Fits
      (usedSite (.blank ⟨0x4000, 96⟩)).board.flash := by
    refine ⟨_, _, (ConfigRecord.toImage_eq_ok_iff _ _).mpr ⟨?_, rfl⟩, rfl, ?_⟩ <;> decide +kernel
  obtain ⟨answer, t, ran, whole, installs⟩ :=
    receiveAll_installs (usedSite (.blank ⟨0x4000, 96⟩)) newSettings usedRegion (some 3)
      [[0xA1], [], [0xB2, 0xC3]] rfl rfl (by decide) rfl fits
  have received : answer = .ok 3 := whole.mpr (by decide)
  exact ⟨t, received ▸ ran, (installs 3 received).2.1⟩

end Whole
end Upload
end ConnectedDevice
