import ConnectedDevice.Proofs.Checksum.Crc16
import ConnectedDevice.Proofs.Device.Basic
import ConnectedDevice.Proofs.Flash.Nor

/-!
What a chunk of an upload does to the flash: it is written whole, behind those before it, or the
flash stays as it is. The first chunk finds the partition erased.
-/

namespace ConnectedDevice

/-- A partition with data at its front and erased bytes behind. -/
def Region.holding (info : PartitionInfo) (data : Bytes) : Region :=
  ⟨info.startAddress, (data ++ List.replicate (info.size - data.length) erased).toArray⟩

theorem Region.info_holding {info : PartitionInfo} {data : Bytes}
    (fits : data.length ≤ info.size) : (holding info data).info = info := by
  simp [holding, Region.info, Nat.add_sub_cancel' fits]

theorem Region.program_holding {info : PartitionInfo} {data chunk : Bytes}
    (fits : data.length + chunk.length ≤ info.size) :
    program (holding info data).cells data.length chunk = (holding info (data ++ chunk)).cells := by
  have written := program_erased data chunk (info.size - data.length) (by omega)
  simp [holding, written, Nat.sub_sub]

namespace Upload

variable (u : Upload) (chunk : Bytes)

def programmed (r : Region) : Region :=
  let cells := if u.received.isEmpty then (Region.blank r.info).cells else r.cells
  { r with cells := Region.program cells u.received.size chunk }

theorem info_programmed (r : Region) : (u.programmed chunk r).info = r.info := by
  simp only [programmed, Region.info, Region.size_program]
  split
  · simp [Region.blank]
  · rfl

section Receive

variable {u chunk} {s : Site} {r : Region}

theorem receive_nil : (u.receive []).run s = (.ok u, s) := by
  simp only [receive, List.isEmpty_nil, if_true]
  rfl

theorem receive_tooLarge (nonempty : chunk ≠ [])
    (large : u.target.size < u.received.size + chunk.length) :
    (u.receive chunk).run s = (.error (.uploadTooLarge u.target.size), s) := by
  have taken : chunk.isEmpty = false := by simpa using nonempty
  simp only [receive, taken, large, Bool.false_eq_true, if_false, if_true]
  rfl

theorem receive_refused (nonempty : chunk ≠ [])
    (fits : u.received.size + chunk.length ≤ u.target.size)
    (refusing : s.board.flash.refusing = true) :
    (u.receive chunk).run s = (.error (.flash (.refused .otaTemp)), s) := by
  have taken : chunk.isEmpty = false := by simpa using nonempty
  simp only [receive, taken, Nat.not_lt.mpr fits, Bool.false_eq_true, if_false]
  cases u.received.isEmpty with
  | true =>
      simp only [if_true, Fallible.bind_apply, Act.onFlash_run, Nor.erase_of_refusing refusing]
  | false =>
      simp only [Bool.false_eq_true, if_false, Fallible.bind_apply, Act.onFlash_run,
        Nor.write_of_refusing refusing]

theorem receive_written (region : s.board.flash.region? .otaTemp = some r)
    (target : u.target = r.info) (nonempty : chunk ≠ [])
    (fits : u.received.size + chunk.length ≤ u.target.size)
    (accepting : s.board.flash.refusing = false) :
    (u.receive chunk).run s = (.ok { u with received := u.received.update chunk },
      s.setFlash (s.board.flash.setRegion (u.programmed chunk r) .otaTemp)) := by
  have taken : chunk.isEmpty = false := by simpa using nonempty
  have room : u.received.size + chunk.length ≤ r.cells.size := by
    simpa [target, Region.info] using fits
  simp only [receive, taken, Nat.not_lt.mpr fits, Bool.false_eq_true, if_false]
  cases started : u.received.isEmpty with
  | true =>
      let blank := s.board.flash.setRegion (.blank r.info) .otaTemp
      have blanked := Nor.erase_eq_ok.mpr ⟨accepting, r, region, rfl⟩
      have written : blank.write .otaTemp u.received.size chunk =
          .ok (s.board.flash.setRegion (u.programmed chunk r) .otaTemp) := by
        refine Nor.write_eq_ok.mpr ⟨?_, .blank r.info, ?_, ?_, ?_⟩
        · simpa [blank, Nor.setRegion_refusing] using accepting
        · simp [blank]
        · simpa [Region.blank, Region.info] using room
        · simp only [blank, Nor.setRegion_setRegion, programmed, started, if_true]
          rfl
      simp only [if_true, Fallible.bind_apply, Act.onFlash_run, blanked]
      simp only [Site.setFlash, blank] at written ⊢
      simp only [written]
      rfl
  | false =>
      have written := Nor.write_eq_ok.mpr ⟨accepting, r, region, room, rfl⟩
      simp only [Bool.false_eq_true, if_false, Fallible.bind_apply, Act.onFlash_run, written,
        programmed, started]
      rfl

variable (chunk) in
theorem receive_cases (region : s.board.flash.region? .otaTemp = some r)
    (target : u.target = r.info) :
    (chunk = [] ∧ (u.receive chunk).run s = (.ok u, s)) ∨
      (∃ e, (u.receive chunk).run s = (.error e, s)) ∨
      (chunk ≠ [] ∧ u.received.size + chunk.length ≤ u.target.size ∧
        (u.receive chunk).run s = (.ok { u with received := u.received.update chunk },
          s.setFlash (s.board.flash.setRegion (u.programmed chunk r) .otaTemp))) := by
  by_cases empty : chunk = []
  · subst empty
    exact .inl ⟨rfl, receive_nil⟩
  · right
    by_cases large : u.target.size < u.received.size + chunk.length
    · exact .inl ⟨_, receive_tooLarge empty large⟩
    · have fits := Nat.not_lt.mp large
      cases refusing : s.board.flash.refusing with
      | true => exact .inl ⟨_, receive_refused empty fits refusing⟩
      | false => exact .inr ⟨empty, fits, receive_written region target empty fits refusing⟩

end Receive

theorem bootTable_eq_ok {u : Upload} {t : BootTable} (named : u.bootTable = .ok t) :
    t = .upgrade u.target.startAddress u.received.size.toUInt32 u.received.remainder ∧
      0 < u.received.size ∧ u.received.size < UInt32.size := by
  simp only [bootTable, bind, Except.bind, pure, Except.pure, throw, throwThe,
    MonadExceptOf.throw] at named
  split at named
  · cases named
  next nonempty =>
    have received : 0 < u.received.size := by
      simpa [Crc16.isEmpty, Nat.pos_iff_ne_zero] using nonempty
    split at named
    · split at named
      · cases named
      · split at named
        · cases named
        · cases named
          exact ⟨rfl, received, by omega⟩
    · split at named
      · cases named
      · cases named
        exact ⟨rfl, received, by omega⟩

theorem start_cases (declared : Option Nat) (s : Site) :
    (∃ e, (start declared).run s = (.error e, s)) ∨
      ∃ u, (start declared).run s = (.ok u, s) ∧
        s.board.flash.partition? .otaTemp = some u.target ∧ u.received = .empty := by
  have here : (get : Fallible Site).run s = (.ok s, s) := rfl
  rw [start, Fallible.bind_apply, here]
  dsimp only
  cases partition : s.board.flash.partition? .otaTemp with
  | none => exact .inl ⟨_, rfl⟩
  | some target =>
      cases declared with
      | none => exact .inr ⟨_, rfl, rfl, rfl⟩
      | some length =>
          by_cases large : target.size < length
          · exact .inl ⟨.announcedTooLarge length target.size, by simp only [large, if_true]; rfl⟩
          · refine .inr ⟨⟨target, some length, .empty⟩, ?_, rfl, rfl⟩
            simp only [large, if_false]
            rfl

theorem start_eq_ok {s s' : Site} {u : Upload} {declared : Option Nat}
    (started : (start declared).run s = (.ok u, s')) :
    s' = s ∧ s.board.flash.partition? .otaTemp = some u.target ∧ u.received = .empty := by
  rcases start_cases declared s with ⟨e, failed⟩ | ⟨v, opened, fresh⟩
  · cases failed.symm.trans started
  · cases opened.symm.trans started
    exact ⟨rfl, fresh⟩

end Upload
end ConnectedDevice
