import ConnectedDevice.Proofs.World.Record

/-!
What uploads received and what the partition for received images holds of it. A chunk is written
behind those before it, the first one into a partition that it erases. So an upload that wrote alone
since the last erase left its bytes there.
-/

namespace ConnectedDevice

def Region.write (r : Region) (piece : Piece) : Region :=
  { r with cells := Region.program r.cells piece.offset piece.data }

/-- A partition that was erased, after the pieces were written to it. -/
def overlay (info : PartitionInfo) (pieces : List Piece) : Region :=
  pieces.foldl Region.write (.blank info)

/-- What uploads received, and what the partition holds of it. -/
structure Scene.Ledger (info? : Option PartitionInfo) (p : Scene) : Prop where
  region : p.world.board.flash.region? .otaTemp = info?.map (overlay · p.written)
  received : ∀ x ∈ p.transfers,
    some x.upload.target = info? ∧ x.upload.received = ⟨crc16 x.sent, x.sent.length⟩
  numbered : ∀ piece ∈ p.written, piece.transfer < p.transfers.length
  started : ∀ x ∈ p.transfers, x.sent ≠ [] → p.written ≠ []
  /-- An upload that wrote alone left its bytes. -/
  alone : ∀ (k : Nat) (x : Transfer), p.transfers[k]? = some x → p.written ≠ [] →
    (∀ piece ∈ p.written, piece.transfer = k) →
      x.sent.length ≤ x.upload.target.size ∧
        overlay x.upload.target p.written = .holding x.upload.target x.sent

theorem Region.info_write (r : Region) (piece : Piece) : (r.write piece).info = r.info := by
  simp [write, info, size_program]

theorem info_overlay (info : PartitionInfo) (pieces : List Piece) :
    (overlay info pieces).info = info := by
  have written (r : Region) : (pieces.foldl Region.write r).info = r.info := by
    induction pieces generalizing r with
    | nil => rfl
    | cons piece pieces ih => exact (ih (r.write piece)).trans (r.info_write piece)
  rw [overlay, written]
  simp [Region.info, Region.blank]

theorem overlay_append (info : PartitionInfo) (pieces : List Piece) (piece : Piece) :
    overlay info (pieces ++ [piece]) = (overlay info pieces).write piece := by
  simp [overlay]

theorem write_holding {info : PartitionInfo} {data : Bytes} {piece : Piece}
    (next : piece.offset = data.length) (fits : data.length + piece.data.length ≤ info.size) :
    (Region.holding info data).write piece = .holding info (data ++ piece.data) := by
  rw [Region.write, next, Region.program_holding fits]
  rfl

theorem World.on_eq_some {α : Type} {w w' : World} {i : Nat} {act : Act α} {a : α}
    (done : w.on i act = some (a, w')) :
    ∃ d s', w.devices[i]? = some d ∧ act ⟨i, w.board, d, []⟩ = (a, s') ∧ w'.board = s'.board := by
  obtain ⟨d, here, entered⟩ := Option.map_eq_some_iff.mp done
  have answer : (act ⟨i, w.board, d, []⟩).1 = a := congrArg Prod.fst entered
  have board : (act ⟨i, w.board, d, []⟩).2.board = w'.board :=
    congrArg (fun result => result.2.board) entered
  exact ⟨d, (act ⟨i, w.board, d, []⟩).2, here, Prod.ext answer rfl, board.symm⟩

theorem World.on_of_run {α : Type} {w : World} {i : Nat} {d : Device} {act : Act α} {a : α}
    {s : Site} (here : w.devices[i]? = some d) (ran : act ⟨i, w.board, d, []⟩ = (a, s)) :
    ∃ w', w.on i act = some (a, w') ∧ w'.board = s.board := by
  simp [World.on, here, World.enter, ran]

/-- The partition for received images stays as it is. -/
def Law.ofRegion (r : Option Region) : Law where
  flash f := f.region? .otaTemp = r
  store _ := True
  outcome _ := True
  before _ := True

theorem Law.ofRegion_allows {r : Option Region} {d : Deed} (other : ¬Upload.MayReceive d) :
    (ofRegion r).Allows d := by
  cases d with
  | change c => exact allows_change fun _ _ => trivial
  | load => exact allows_load fun _ _ _ _ _ _ _ => trivial
  | commit =>
      refine allows_commit fun s f _ same => ?_
      cases loaded : s.loaded with
      | none => simpa only [Store.commit, Store.lock, loaded] using same
      | some st =>
          simp only [Store.commit, Store.lock, loaded]
          exact (st.region?_commit f (by decide)).trans same
  | erase => exact absurd .erase other
  | write offset data => exact absurd (.write offset data) other
  | spawn t => exact allows_spawn fun _ _ => trivial
  | enroll subscriptions => exact allows_enroll
  | session run f => exact allows_session
  | close run outcome => exact allows_close trivial

theorem Law.ofRegion_stands {r : Option Region} : (ofRegion r).Stands where
  commit := ofRegion_allows nofun
  load := ofRegion_allows nofun
  observe _ := ofRegion_allows nofun
  refusing _ _ same := same
  fresh := trivial

namespace Scene

variable {info? : Option PartitionInfo} {p q : Scene}

namespace Ledger

theorem region_of_mem {x : Transfer} (ledger : p.Ledger info?) (found : x ∈ p.transfers) :
    p.world.board.flash.region? .otaTemp = some (overlay x.upload.target p.written) := by
  rw [ledger.region, ← (ledger.received x found).1]
  rfl

/-- Nothing changes while the uploads keep what they received. -/
theorem agree (ledger : p.Ledger info?)
    (region : q.world.board.flash.region? .otaTemp = p.world.board.flash.region? .otaTemp)
    (written : q.written = p.written) (length : q.transfers.length = p.transfers.length)
    (same : ∀ (k : Nat) (x : Transfer), q.transfers[k]? = some x →
      ∃ y : Transfer, p.transfers[k]? = some y ∧ x.upload = y.upload ∧ x.sent = y.sent) :
    q.Ledger info? where
  region := by rw [region, written, ledger.region]
  received x found := by
    obtain ⟨k, here⟩ := List.mem_iff_getElem?.mp found
    obtain ⟨y, was, upload, sent⟩ := same k x here
    rw [upload, sent]
    exact ledger.received y (List.mem_of_getElem? was)
  numbered := by
    rw [written, length]
    exact ledger.numbered
  started x found := by
    obtain ⟨k, here⟩ := List.mem_iff_getElem?.mp found
    obtain ⟨y, was, upload, sent⟩ := same k x here
    rw [sent, written]
    exact ledger.started y (List.mem_of_getElem? was)
  alone k x here := by
    obtain ⟨y, was, upload, sent⟩ := same k x here
    rw [upload, sent, written]
    exact ledger.alone k y was

theorem set_same {transfers : List Transfer} {k : Nat} {x y : Transfer}
    (here : transfers[k]? = some x) (upload : y.upload = x.upload) (sent : y.sent = x.sent)
    (j : Nat) (z : Transfer) (found : (transfers.set k y)[j]? = some z) :
    ∃ w : Transfer, transfers[j]? = some w ∧ z.upload = w.upload ∧ z.sent = w.sent := by
  rw [List.getElem?_set] at found
  split at found
  next same =>
    split at found
    · cases found
      exact ⟨x, same ▸ here, upload, sent⟩
    · cases found
  next => exact ⟨z, found, rfl, rfl⟩

/-- The bytes of an upload that is alone with what it wrote before a chunk. -/
theorem alone_before {k : Nat} {x : Transfer} {before : List Piece} (ledger : p.Ledger info?)
    (here : p.transfers[k]? = some x)
    (which : before = if x.upload.received.isEmpty then [] else p.written)
    (own : ∀ piece ∈ before, piece.transfer = k) :
    overlay x.upload.target before = .holding x.upload.target x.sent := by
  obtain ⟨-, received⟩ := ledger.received x (List.mem_of_getElem? here)
  by_cases first : x.sent = []
  · have start : x.upload.received.isEmpty = true := by simp [received, first, Crc16.isEmpty]
    simp [which, start, first, overlay, Region.holding, Region.blank]
  · have later : x.upload.received.isEmpty = false := by
      simpa [received, Crc16.isEmpty] using first
    have same : before = p.written := by simp [which, later]
    have wrote := ledger.started x (List.mem_of_getElem? here) first
    rw [same] at own ⊢
    exact (ledger.alone k x here wrote own).2

/-- What a chunk leaves in the partition is one piece more. -/
theorem programmed_overlay (u : Upload) (k : Nat) (data : Bytes) (pieces : List Piece) :
    u.programmed data (overlay u.target pieces) =
      overlay u.target ((if u.received.isEmpty then [] else pieces) ++
        [⟨k, u.received.size, data⟩]) := by
  have info := info_overlay u.target pieces
  have start : (overlay u.target pieces).startAddress = u.target.startAddress :=
    congrArg PartitionInfo.startAddress info
  rw [overlay_append]
  cases first : u.received.isEmpty with
  | true =>
      simp only [Upload.programmed, first, if_true, info, start]
      rfl
  | false => simp [Upload.programmed, first, Region.write]

/-- An empty partition takes the first chunk, and a later one stands behind what it holds. -/
theorem receive {k : Nat} {x : Transfer} {data : Bytes} {upload : Upload} {world : World}
    (ledger : p.Ledger info?) (here : p.transfers[k]? = some x)
    (done : p.world.on x.device (x.upload.receive data).run = some (.ok upload, world)) :
    (p.chunk k x data).Ledger info? := by
  have inside := List.mem_of_getElem? here
  obtain ⟨target, received⟩ := ledger.received x inside
  have region := ledger.region_of_mem inside
  obtain ⟨d, s', -, ran, board⟩ := World.on_eq_some done
  simp only [Scene.chunk, done]
  rcases Upload.receive_cases (u := x.upload) (s := ⟨x.device, p.world.board, d, []⟩) data region
      (info_overlay _ _).symm with
    ⟨empty, same⟩ | ⟨e, failed⟩ | ⟨nonempty, fits, wrote⟩
  · obtain ⟨kept, rfl⟩ := Prod.mk.inj (same.symm.trans ran)
    cases kept
    refine ledger.agree ?_ ?_ ?_ (set_same here rfl ?_)
    · simp only [Scene.setTransfer, board]
    · simp [Scene.setTransfer, empty]
    · simp [Scene.setTransfer]
    · simp [empty]
  · rw [failed] at ran
    cases ran
  · obtain ⟨took, rfl⟩ := Prod.mk.inj (wrote.symm.trans ran)
    cases took
    have taken : data.isEmpty = false := by simpa using nonempty
    have offset : x.upload.received.size = x.sent.length := by rw [received]
    simp only [taken, Bool.false_eq_true, if_false]
    generalize which : (if x.upload.received.isEmpty then [] else p.written) = before
    constructor
    case region =>
      simp only [Scene.setTransfer, board, Site.setFlash, Nor.region?_setRegion, if_true]
      rw [programmed_overlay x.upload k, which, ← target]
      rfl
    case received =>
      intro z found
      rcases List.mem_or_eq_of_mem_set found with found | rfl
      · exact ledger.received z found
      · exact ⟨target, by rw [received, Crc16.update_crc16]⟩
    case numbered =>
      intro piece found
      have inRange : k < p.transfers.length := (List.getElem?_eq_some_iff.mp here).1
      simp only [Scene.setTransfer, List.length_set] at found ⊢
      rcases List.mem_append.mp found with found | found
      · rw [← which] at found
        split at found
        · cases found
        · exact ledger.numbered piece found
      · rw [List.mem_singleton.mp found]
        exact inRange
    case started =>
      intro z _ _
      simp [Scene.setTransfer]
    case alone =>
      intro j z found _ own
      have mine : k = j := own ⟨k, x.upload.received.size, data⟩ (by simp [Scene.setTransfer])
      subst mine
      have holds := ledger.alone_before here which.symm fun piece found =>
        own piece (List.mem_append_left _ found)
      have room : x.sent.length + data.length ≤ x.upload.target.size := by
        rwa [offset] at fits
      have same : z = { x with
          upload := { x.upload with received := x.upload.received.update data }
          sent := x.sent ++ data } := by
        have inRange : k < p.transfers.length := (List.getElem?_eq_some_iff.mp here).1
        simpa [Scene.setTransfer, inRange] using found.symm
      subst same
      refine ⟨by simpa using room, ?_⟩
      simp only [Scene.setTransfer, overlay_append, holds]
      exact write_holding offset room

end Ledger

/-- A chunk that is refused leaves the flash as it was. -/
theorem Ledger.refused {k : Nat} {x : Transfer} {data : Bytes} {e : Error} {world : World}
    (ledger : p.Ledger info?) (here : p.transfers[k]? = some x)
    (done : p.world.on x.device (x.upload.receive data).run = some (.error e, world)) :
    (p.chunk k x data).Ledger info? := by
  have region := ledger.region_of_mem (List.mem_of_getElem? here)
  obtain ⟨d, s', -, ran, board⟩ := World.on_eq_some done
  simp only [Scene.chunk, done]
  rcases Upload.receive_cases (u := x.upload) (s := ⟨x.device, p.world.board, d, []⟩) data region
      (info_overlay _ _).symm with
    ⟨-, same⟩ | ⟨e, failed⟩ | ⟨-, -, wrote⟩
  · rw [same] at ran
    cases ran
  · obtain ⟨-, rfl⟩ := Prod.mk.inj (failed.symm.trans ran)
    refine ledger.agree ?_ rfl ?_ (set_same here rfl rfl)
    · simp only [Scene.setTransfer, board]
    · simp [Scene.setTransfer]
  · rw [wrote] at ran
    cases ran

/-- A further upload received nothing yet. -/
theorem Ledger.opened {i : Nat} {declared : Option Nat} {upload : Upload} {world : World}
    (ledger : p.Ledger info?)
    (done : p.world.on i (Upload.start declared).run = some (.ok upload, world)) :
    (p.openUpload i declared).Ledger info? := by
  obtain ⟨d, s', -, ran, board⟩ := World.on_eq_some done
  obtain ⟨rfl, target, received⟩ := Upload.start_eq_ok ran
  have info : some upload.target = info? := by
    rw [← target, Nor.partition?]
    simp only [ledger.region, Option.map_map]
    cases info? with
    | none => rfl
    | some info => simp [info_overlay]
  simp only [Scene.openUpload, done]
  constructor
  case region => simpa only [board] using ledger.region
  case received =>
    intro x found
    rcases List.mem_append.mp found with found | found
    · exact ledger.received x found
    · rw [List.mem_singleton.mp found]
      exact ⟨info, received⟩
  case numbered =>
    intro piece found
    have := ledger.numbered piece found
    simp only [List.length_append, List.length_singleton]
    omega
  case started =>
    intro x found sent
    rcases List.mem_append.mp found with found | found
    · exact ledger.started x found sent
    · rw [List.mem_singleton.mp found] at sent
      exact absurd rfl sent
  case alone =>
    intro k x here wrote own
    by_cases old : k < p.transfers.length
    · rw [List.getElem?_append_left old] at here
      exact ledger.alone k x here wrote own
    · -- The further upload wrote nothing, so it is not the one that wrote alone.
      obtain ⟨piece, found⟩ := List.exists_mem_of_ne_nil _ wrote
      have := ledger.numbered piece found
      have := own piece found
      omega

theorem region_step {e : Event} (permits : p.permits e) (other : ∀ k data, e ≠ .chunk k data) :
    (p.step e).world.board.flash.region? .otaTemp = p.world.board.flash.region? .otaTemp := by
  let r := p.world.board.flash.region? .otaTemp
  have law : (Law.ofRegion r).OnWorld p.world :=
    ⟨rfl, fun _ _ => ⟨trivial, fun _ _ => trivial⟩, fun _ _ _ => .inr fun _ _ => trivial⟩
  refine (law.step Law.ofRegion_stands permits (fun d may => ?_) fun d run wait _ => ?_).flash
  · refine Law.ofRegion_allows fun receives => ?_
    obtain ⟨k, data, same⟩ := Law.chunk_of_may may receives
    exact other k data same
  · refine ⟨fun _ _ => trivial, fun run d may => Law.ofRegion_allows fun receives => ?_⟩
    cases may with
    | proceed may => cases may <;> cases receives
    | linger due => cases receives
    | close _ => cases receives

theorem Ledger.step {e : Event} (ledger : p.Ledger info?) (permits : p.permits e) :
    (p.step e).Ledger info? := by
  have region := p.region_step (e := e) permits
  have unchanged (k : Nat) (x : Transfer) (here : p.transfers[k]? = some x) :
      ∃ y : Transfer, p.transfers[k]? = some y ∧ x.upload = y.upload ∧ x.sent = y.sent :=
    ⟨x, here, rfl, rfl⟩
  cases e with
  | powerLoss =>
      refine ledger.agree (region (by simp)) rfl (by simp [Scene.step]) fun k x here => ?_
      simp only [Scene.step, List.getElem?_map, Option.map_eq_some_iff] at here
      obtain ⟨y, was, rfl⟩ := here
      refine ⟨y, was, ?_⟩
      split
      · exact ⟨rfl, rfl⟩
      · exact ⟨rfl, rfl⟩
  | openUpload i declared =>
      cases done : p.world.on i (Upload.start declared).run with
      | none => simpa [Scene.step, Scene.openUpload, done] using ledger
      | some result =>
          obtain ⟨answer, world⟩ := result
          cases answer with
          | ok upload => exact ledger.opened done
          | error e =>
              have same : p.step (.openUpload i declared) = { p with world } := by
                simp [Scene.step, Scene.openUpload, done]
              rw [same] at region ⊢
              exact ledger.agree (region (by simp)) rfl rfl unchanged
  | chunk k data =>
      cases running : p.running? k with
      | none => simpa [Scene.step, running] using ledger
      | some x =>
          have here := (running?_eq_some.mp running).1
          simp only [Scene.step, running, Option.map_some, Option.getD_some]
          cases done : p.world.on x.device (x.upload.receive data).run with
          | none => simpa [Scene.chunk, done] using ledger
          | some result =>
              obtain ⟨answer, world⟩ := result
              cases answer with
              | ok upload => exact ledger.receive here done
              | error e => exact ledger.refused here done
  | finish k =>
      cases running : p.running? k with
      | none => simpa [Scene.step, running] using ledger
      | some x =>
          have here := (running?_eq_some.mp running).1
          cases done : p.world.on x.device x.upload.finish.run with
          | none => simpa [Scene.step, Scene.finish, running, done] using ledger
          | some result =>
              have same : p.step (.finish k) =
                  { p with world := result.2 }.setTransfer k { x with state := .finished } := by
                simp [Scene.step, Scene.finish, running, done]
              rw [same] at region ⊢
              refine ledger.agree (region (by simp)) rfl ?_ (set_same here rfl rfl)
              simp [Scene.setTransfer]
  | breakOff k =>
      cases running : p.running? k with
      | none => simpa [Scene.step, running] using ledger
      | some x =>
          have here := (running?_eq_some.mp running).1
          have same : p.step (.breakOff k) = p.setTransfer k { x with state := .broken } := by
            simp [Scene.step, running]
          rw [same]
          refine ledger.agree rfl rfl ?_ (set_same here rfl rfl)
          simp [Scene.setTransfer]
  | subscribe label kind =>
      simp only [Scene.step]
      split
      · exact ledger.agree rfl rfl rfl unchanged
      · exact ledger
  | _ => exact ledger.agree (region (by simp)) rfl rfl unchanged

section Reachable

variable {layout : Layout} {capacity : Nat} {hardware : Hardware} {may : Scene → Event → Bool}

theorem ledger_reachable (reachable : Reachable may (erased layout capacity hardware) p) :
    p.Ledger (layout.find? .otaTemp) := by
  refine reachable.invariant ?_ fun q e _ permits _ ledger => ledger.step permits
  constructor
  case region => rfl
  all_goals simp [erased]

end Reachable

end Scene
end ConnectedDevice
