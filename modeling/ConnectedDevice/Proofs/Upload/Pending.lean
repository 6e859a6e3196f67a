import ConnectedDevice.Proofs.Upload.Ledger

/-!
The image that a pending boot table names. Every pending table gives the length and the checksum of
an upload whose bytes all arrived, and the partition holds what all uploads wrote to it since the
last erase. So the table describes the image that is stored as long as no other upload wrote; the
first chunk of another one erases the image, and the table stays.
-/

namespace ConnectedDevice

/-- The table names all bytes of an upload that received all of them. -/
structure BootTable.Describes (t : BootTable) (x : Transfer) : Prop where
  finished : x.state = .finished
  table : t = .upgrade x.upload.target.startAddress x.sent.length.toUInt32 (crc16 x.sent)
  nonempty : 0 < x.sent.length
  range : x.sent.length < UInt32.size

def BootTable.Known (transfers : List Transfer) (t : BootTable) : Prop :=
  t.isPending → ∃ x ∈ transfers, t.Describes x

/-- A stored table that waits gives the checksum of the bytes that the partition holds. -/
def Nor.DescribesImage (f : Nor) : Prop :=
  ∀ r ∈ f.stored?, ∀ info ∈ f.partition? .otaTemp, ∀ image ∈ f.contents? .otaTemp,
    r.bootTable.isPending → r.bootTable.startAddress = info.startAddress →
      crc16 (image.take r.bootTable.length.toNat) = r.bootTable.crc

instance (f : Nor) : Decidable f.DescribesImage :=
  inferInstanceAs <| Decidable <| ∀ r ∈ f.stored?, ∀ info ∈ f.partition? .otaTemp,
    ∀ image ∈ f.contents? .otaTemp, r.bootTable.isPending →
      r.bootTable.startAddress = info.startAddress →
        crc16 (image.take r.bootTable.length.toNat) = r.bootTable.crc

namespace Scene

variable (p : Scene)

def flash : Nor := p.world.board.flash

/-- A stored table that waits is that of an upload which satisfies a condition. -/
def PendingFrom (condition : Nat → Transfer → Prop) : Prop :=
  ∀ r, p.flash.stored? = some r → r.bootTable.isPending →
    ∃ k x, p.transfers[k]? = some x ∧ r.bootTable.Describes x ∧ condition k x

def Left (x : Transfer) : Prop :=
  crc16 ((overlay x.upload.target p.written).cells.toList.take x.sent.length) = crc16 x.sent

/-- No other upload wrote since the last erase. -/
def Alone (k : Nat) : Prop := ∀ piece ∈ p.written, piece.transfer = k

end Scene

namespace BootTable.Describes

variable {t : BootTable} {x : Transfer} (describes : t.Describes x)
include describes

theorem length : t.length.toNat = x.sent.length := by
  rw [describes.table]
  exact UInt32.toNat_ofNat_of_lt' describes.range

theorem crc : t.crc = crc16 x.sent := by
  rw [describes.table]
  rfl

theorem startAddress : t.startAddress = x.upload.target.startAddress := by
  rw [describes.table]
  rfl

end BootTable.Describes

namespace Scene

variable {p : Scene}

/-- Every table that waits, in memory and in flash, is that of an upload. -/
def Tables (p : Scene) (w : World) : Prop :=
  (Law.ofRecords (fun r => r.bootTable.Known p.transfers) (fun _ => True) fun _ => True).OnWorld w

theorem mem_set_of_finished {k : Nat} {x y z : Transfer} (running : p.running? k = some x)
    (found : z ∈ p.transfers) (finished : z.state = .finished) : z ∈ p.transfers.set k y := by
  obtain ⟨here, state⟩ := running?_eq_some.mp running
  obtain ⟨j, there⟩ := List.mem_iff_getElem?.mp found
  have other : k ≠ j := by
    rintro rfl
    rw [here] at there
    cases there
    rw [state] at finished
    cases finished
  refine List.mem_iff_getElem?.mpr ⟨j, ?_⟩
  rw [List.getElem?_set_ne other]
  exact there

theorem mem_step_of_finished {e : Event} {z : Transfer} (found : z ∈ p.transfers)
    (finished : z.state = .finished) : z ∈ (p.step e).transfers := by
  cases e with
  | powerLoss =>
      refine List.mem_map.mpr ⟨z, found, ?_⟩
      simp [finished]
  | openUpload i declared =>
      simp only [Scene.step, Scene.openUpload]
      split
      · exact List.mem_append_left _ found
      · exact found
      · exact found
  | chunk k data =>
      cases running : p.running? k with
      | none => simpa [Scene.step, running] using found
      | some x =>
          simp only [Scene.step, running, Option.map_some, Option.getD_some, Scene.chunk]
          split
          · exact found
          · exact mem_set_of_finished running found finished
          · exact mem_set_of_finished running found finished
  | finish k =>
      cases running : p.running? k with
      | none => simpa [Scene.step, running] using found
      | some x =>
          simp only [Scene.step, running, Option.map_some, Option.getD_some, Scene.finish]
          split
          · exact found
          · exact mem_set_of_finished running found finished
  | breakOff k =>
      cases running : p.running? k with
      | none => simpa [Scene.step, running] using found
      | some x =>
          simp only [Scene.step, running, Option.map_some, Option.getD_some]
          exact mem_set_of_finished running found finished
  | subscribe label kind =>
      simp only [Scene.step]
      split
      · exact found
      · exact found
  | _ => exact found

end Scene

theorem BootTable.known_loadable {transfers : List Transfer} :
    Law.Loadable fun r => r.bootTable.Known transfers where
  factory _ _ _ pending := by simp [ConfigRecord.factory, isPending, empty, pendingMark] at pending
  resizeApp _ _ known := known

theorem Change.bootTable_apply {c : Change} (st : Settings) (other : ∀ t, c ≠ .install t) :
    (c.apply st).record.bootTable = st.record.bootTable := by
  cases c with
  | install t => exact absurd rfl (other t)
  | _ => rfl

theorem Upload.describes {x : Transfer} {t : BootTable}
    (received : x.upload.received = ⟨crc16 x.sent, x.sent.length⟩)
    (named : x.upload.bootTable = .ok t) : t.Describes { x with state := .finished } := by
  obtain ⟨table, nonempty, range⟩ := bootTable_eq_ok named
  rw [received] at table nonempty range
  exact ⟨rfl, table, nonempty, range⟩

namespace Scene

variable {info? : Option PartitionInfo} {p : Scene}

theorem tables_step {e : Event} (tables : p.Tables p.world) (ledger : p.Ledger info?)
    (permits : p.permits e) : (p.step e).Tables (p.step e).world := by
  have before : (p.step e).Tables p.world :=
    Law.ofRecords_mono (fun r known pending =>
      let ⟨x, found, describes⟩ := known pending
      ⟨x, mem_step_of_finished found describes.finished, describes⟩) tables
  by_cases gone : ∃ k x, e = .finish k ∧ p.running? k = some x ∧
      p.world.on x.device x.upload.finish.run = none
  · -- Without its system an upload has no end.
    obtain ⟨k, x, rfl, running, done⟩ := gone
    have same : p.step (.finish k) = p := by simp [Scene.step, Scene.finish, running, done]
    rwa [same]
  · refine before.step (Law.ofRecords_stands BootTable.known_loadable) permits
      (fun d may => ?_) fun d run wait _ => ?_
    · refine Law.ofRecords_allows BootTable.known_loadable may fun c change st known => ?_
      by_cases installs : ∃ t, c = .install t
      · obtain ⟨t, rfl⟩ := installs
        subst change
        obtain ⟨k, x, running, rfl, named⟩ := Law.install_of_may may
        obtain ⟨here, -⟩ := running?_eq_some.mp running
        obtain ⟨-, received⟩ := ledger.received x (List.mem_of_getElem? here)
        refine fun _ => ⟨{ x with state := .finished }, ?_, Upload.describes received named⟩
        cases done : p.world.on x.device x.upload.finish.run with
        | none => exact absurd ⟨k, x, rfl, running, done⟩ gone
        | some result =>
            have running : p.running? k = some x := running
            simp only [Scene.step, running, Option.map_some, Option.getD_some, Scene.finish, done]
            exact List.mem_set (List.getElem?_eq_some_iff.mp here).1 _
      · rw [c.bootTable_apply st fun t same => installs ⟨t, same⟩]
        exact known
    · refine Law.ofRecords_allowsTarget BootTable.known_loadable (fun _ _ => trivial) ?_
        fun _ _ _ => trivial
      intro run c may st known
      cases may <;> exact known

theorem tables_reachable {layout : Layout} {capacity : Nat} {hardware : Hardware}
    {may : Scene → Event → Bool} (reachable : Reachable may (erased layout capacity hardware) p) :
    p.Tables p.world := by
  refine reachable.invariant ?_ fun q e before permits _ tables =>
    tables_step tables (ledger_reachable before) permits
  exact Law.ofRecords_erased

theorem pendingFrom_finished {layout : Layout} {capacity : Nat} {hardware : Hardware}
    {may : Scene → Event → Bool} (reachable : Reachable may (erased layout capacity hardware) p) :
    p.PendingFrom fun _ _ => True := by
  intro r stored pending
  obtain ⟨x, found, describes⟩ := (tables_reachable reachable).flash r stored pending
  obtain ⟨k, here⟩ := List.mem_iff_getElem?.mp found
  exact ⟨k, x, here, describes, trivial⟩

theorem Ledger.contents {x : Transfer} (ledger : p.Ledger info?) (found : x ∈ p.transfers) :
    p.flash.partition? .otaTemp = some x.upload.target ∧
      p.flash.contents? .otaTemp = some (overlay x.upload.target p.written).cells.toList := by
  have region : p.flash.region? .otaTemp = some (overlay x.upload.target p.written) :=
    ledger.region_of_mem found
  simp [Nor.partition?, Nor.contents?, region, info_overlay]

/-- The stored table describes the image exactly as long as the checksum of what all uploads left is
that of the upload it names. -/
theorem describesImage_iff {layout : Layout} {capacity : Nat} {hardware : Hardware}
    {may : Scene → Event → Bool} (reachable : Reachable may (erased layout capacity hardware) p) :
    p.flash.DescribesImage ↔ p.PendingFrom fun _ x => p.Left x := by
  have ledger := ledger_reachable reachable
  constructor
  · intro describes r stored pending
    obtain ⟨k, x, here, named, -⟩ := pendingFrom_finished reachable r stored pending
    obtain ⟨partition, contents⟩ := ledger.contents (List.mem_of_getElem? here)
    have sums := describes r stored _ partition _ contents pending named.startAddress
    rw [named.length, named.crc] at sums
    exact ⟨k, x, here, named, sums⟩
  · intro left r stored _ _ image contents pending _
    obtain ⟨k, x, here, named, sums⟩ := left r stored pending
    obtain ⟨-, held⟩ := ledger.contents (List.mem_of_getElem? here)
    rw [held] at contents
    cases contents
    rw [named.length, named.crc]
    exact sums

theorem Ledger.left {k : Nat} {x : Transfer} (ledger : p.Ledger info?)
    (here : p.transfers[k]? = some x) (wrote : x.sent ≠ []) (alone : p.Alone k) : p.Left x := by
  have started := ledger.started x (List.mem_of_getElem? here) wrote
  obtain ⟨-, holds⟩ := ledger.alone k x here started alone
  have taken : (overlay x.upload.target p.written).cells.toList.take x.sent.length = x.sent := by
    rw [holds]
    exact List.take_left
  rw [Left, taken]

/-- The first chunk of an upload replaces the image, and the stored table stays. -/
theorem chunk_first {layout : Layout} {capacity : Nat} {hardware : Hardware} {k : Nat}
    {x : Transfer} {data : Bytes} (reachable : Reachable always (erased layout capacity hardware) p)
    (running : p.running? k = some x) (system : x.device < p.world.devices.length)
    (first : x.sent = []) (nonempty : data ≠ []) (fits : data.length ≤ x.upload.target.size)
    (accepting : p.flash.refusing = false) :
    (p.step (.chunk k data)).flash.stored? = p.flash.stored? ∧
      (p.step (.chunk k data)).flash.region? .otaTemp = some (.holding x.upload.target data) := by
  have ledger := ledger_reachable reachable
  have inside := List.mem_of_getElem? (running?_eq_some.mp running).1
  obtain ⟨-, received⟩ := ledger.received x inside
  have start : x.upload.received.isEmpty = true := by simp [received, first, Crc16.isEmpty]
  let s : Site := ⟨x.device, p.world.board, p.world.devices[x.device], []⟩
  have wrote := Upload.receive_written (s := s) (u := x.upload) (ledger.region_of_mem inside)
    (info_overlay _ _).symm nonempty (by simpa [received, first] using fits) accepting
  obtain ⟨world, done, board⟩ := World.on_of_run (List.getElem?_eq_getElem system) wrote
  have flash : (p.step (.chunk k data)).flash = p.flash.setRegion
      (x.upload.programmed data (overlay x.upload.target p.written)) .otaTemp := by
    have written : (p.chunk k x data).world = world := by simp [Scene.chunk, done, setTransfer]
    simp [Scene.step, running, Scene.flash, written, board, s, Site.setFlash]
  rw [flash]
  refine ⟨Nor.stored?_setRegion (by decide) _, ?_⟩
  have blank : overlay x.upload.target [] = .holding x.upload.target [] := by
    simp [overlay, Region.holding, Region.blank]
  rw [Nor.region?_setRegion, if_pos rfl, Ledger.programmed_overlay x.upload k, if_pos start,
    overlay_append, blank]
  exact congrArg some (write_holding (by simp [received, first]) (by simpa using fits))

/-- The stored table describes the image exactly as long as the checksum of what all uploads left is
that of the upload it names, and so as long as no other upload writes. -/
theorem pending_describesImage {layout : Layout} {capacity : Nat} {hardware : Hardware}
    (reachable : Reachable always (erased layout capacity hardware) p) :
    (p.flash.DescribesImage ↔ p.PendingFrom fun _ x => p.Left x) ∧
      (p.PendingFrom (fun k _ => p.Alone k) → p.flash.DescribesImage) := by
  have described := describesImage_iff reachable
  refine ⟨described, fun alone => described.mpr fun r stored pending => ?_⟩
  obtain ⟨k, x, here, named, own⟩ := alone r stored pending
  have sent : x.sent ≠ [] := List.ne_nil_of_length_pos named.nonempty
  exact ⟨k, x, here, named, (ledger_reachable reachable).left here sent own⟩

def upload : List Event :=
  [.boot sampleOptions DeviceInfo.product false, .openUpload 0 none, .chunk 0 [1, 2, 3], .finish 0]

def interruptedUpload : List Event :=
  upload ++ [.openUpload 0 none, .chunk 1 [9], .breakOff 1]

set_option maxRecDepth 4000 in
theorem pending_describesImage_upload :
    ∃ p, sample.run always upload = some p ∧ (∃ r ∈ p.flash.stored?, r.bootTable.isPending) ∧
      p.flash.DescribesImage := by
  have ran : (sample.run always upload).any fun p =>
      p.transfers.length == 1 && p.flash.stored?.any (·.bootTable.isPending) := by
    decide +kernel
  obtain ⟨p, ran, done⟩ := (Option.any_eq_true _ _).mp ran
  obtain ⟨single, waits⟩ := Bool.and_eq_true_iff.mp done
  have reachable : Reachable always sample p := reachable_run ran
  refine ⟨p, ran, (Option.any_eq_true _ _).mp waits, (pending_describesImage reachable).2 ?_⟩
  intro r stored pending
  obtain ⟨k, x, here, named, -⟩ := pendingFrom_finished reachable r stored pending
  refine ⟨k, x, here, named, fun piece found => ?_⟩
  have := (ledger_reachable reachable).numbered piece found
  have := (List.getElem?_eq_some_iff.mp here).1
  have := beq_iff_eq.mp single
  omega

set_option maxRecDepth 4000 in
theorem interruptedUpload_replaces_image :
    ¬∀ p, Reachable always sample p → p.flash.DescribesImage := by
  intro describes
  have ran : (sample.run always interruptedUpload).any fun p =>
      decide (¬p.flash.DescribesImage) := by
    decide +kernel
  obtain ⟨p, ran, replaced⟩ := (Option.any_eq_true _ _).mp ran
  exact of_decide_eq_true replaced (describes p (reachable_run ran))

end Scene
end ConnectedDevice
