import ConnectedDevice.World

/-!
Worlds with the uploads under way, and what can happen to them. Tasks go on in any order once they
are ready, time passes as it likes, uploads advance chunk by chunk. A scene also keeps what the
device itself does not: the bytes that an upload received, and who wrote what since the partition
for received images was erased last.
-/

namespace ConnectedDevice

inductive TransferState where
  | running
  /-- all bytes arrived, whatever the answer was -/
  | finished
  | broken
deriving DecidableEq, Repr

structure Transfer where
  device : Nat
  upload : Upload
  /-- all bytes that were received -/
  sent : Bytes
  state : TransferState

/-- A chunk as it was written to the partition for received images. -/
structure Piece where
  transfer : Nat
  offset : Nat
  data : Bytes

structure Scene where
  world : World
  transfers : List Transfer
  /-- since the last erase -/
  written : List Piece

inductive Event where
  | notify (n : Notification)
  /-- a waiting task goes on -/
  | resume (task : Nat)
  | pass (time : Nat)
  | boot (options : Options) (info : DeviceInfo) (hooked : Bool)
  | stop (device : Nat)
  /-- the power fails, and all is lost that is not in flash -/
  | powerLoss
  | startRun (device : Nat)
  | takeRun (device : Nat)
  | cancelRun (device run : Nat)
  | request (device : Nat) (r : Server.Request)
  | clickEasyLink (device : Nat)
  | holdEasyLink (device : Nat)
  | requestPower (device : Nat) (state : PowerState)
  | markDirty (device : Nat)
  | commit (device : Nat)
  | subscribe (label : String) (kind : NotificationKind)
  | unsubscribe (kind : NotificationKind) (id : Nat)
  /-- the hardware answers otherwise from now on -/
  | hardware (h : Hardware)
  | refuse (refusing : Bool)
  | openUpload (device : Nat) (declared : Option Nat)
  | chunk (transfer : Nat) (data : Bytes)
  | finish (transfer : Nat)
  | breakOff (transfer : Nat)

namespace World

def isListening (w : World) (i : Nat) : Bool := (w.devices[i]?).any (·.listening)

def attempt {α : Type} (w : World) (i : Nat) (x : Fallible α) : World := w.run i (discard x.run)

def bootOnly (w : World) (options : Options) (info : DeviceInfo) (hooked : Bool) : World :=
  let i := w.devices.length
  let d := Device.make options info hooked
  match { w with devices := w.devices ++ [d] }.enter i d Device.boot.run with
  | (.ok _, w) => w
  | (.error _, w) => w.run i Device.stop

def loseAll (w : World) : World :=
  make { w.board with center := .empty w.board.center.capacity } []

def setCenter (w : World) (center : Center Handler) : World :=
  { w with board := { w.board with center } }

def setHardware (w : World) (hardware : Hardware) : World :=
  { w with board := { w.board with hardware } }

def setRefusing (w : World) (refusing : Bool) : World :=
  { w with board := { w.board with flash := { w.board.flash with refusing } } }

/-- An act that changes nothing but the board. -/
theorem on_board {α : Type} {w : World} {i : Nat} {d : Device} {act : Act α} {a : α}
    {board : Board} (here : w.devices[i]? = some d)
    (ran : act ⟨i, w.board, d, []⟩ = (a, ⟨i, board, d, []⟩)) :
    w.on i act = some (a, { w with board }) := by
  have same : w.devices.set i d = w.devices := by
    obtain ⟨inside, rfl⟩ := List.getElem?_eq_some_iff.mp here
    exact List.set_getElem_self inside
  simp [on, here, enter, ran, same]

end World

namespace Scene

def setTransfer (p : Scene) (k : Nat) (t : Transfer) : Scene :=
  { p with transfers := p.transfers.set k t }

def chunk (p : Scene) (k : Nat) (t : Transfer) (data : Bytes) : Scene :=
  match p.world.on t.device (t.upload.receive data).run with
  | none => p
  | some (.error _, world) => { p with world }.setTransfer k { t with state := .broken }
  | some (.ok upload, world) =>
    let before := if t.upload.received.isEmpty then [] else p.written
    let written :=
      if data.isEmpty then p.written else before ++ [⟨k, t.upload.received.size, data⟩]
    { p with world, written }.setTransfer k { t with upload, sent := t.sent ++ data }

def finish (p : Scene) (k : Nat) (t : Transfer) : Scene :=
  match p.world.on t.device t.upload.finish.run with
  | none => p
  | some (_, world) => { p with world }.setTransfer k { t with state := .finished }

def running? (p : Scene) (k : Nat) : Option Transfer :=
  (p.transfers[k]?).filter (·.state == .running)

def openUpload (p : Scene) (i : Nat) (declared : Option Nat) : Scene :=
  match p.world.on i (Upload.start declared).run with
  | some (.ok upload, world) =>
    { p with world, transfers := p.transfers ++ [⟨i, upload, [], .running⟩] }
  | some (.error _, world) => { p with world }
  | none => p

def step (p : Scene) (e : Event) : Scene :=
  let w := p.world
  match e with
  | .notify n => { p with world := w.dispatch n }
  | .resume k => { p with world := w.resume k }
  | .pass time => { p with world := w.setNow (w.board.now + time) }
  | .boot options info hooked => { p with world := w.bootOnly options info hooked }
  | .stop i => { p with world := w.run i Device.stop }
  | .powerLoss =>
    { p with
      world := w.loseAll
      transfers := p.transfers.map fun t =>
        if t.state = .running then { t with state := .broken } else t }
  | .startRun i => { p with world := w.attempt i Device.startProvisioning }
  | .takeRun i => { p with world := w.run i (discard Device.takeProvisioning) }
  | .cancelRun i run => { p with world := w.run i (Device.cancelRun run) }
  | .request i r => { p with world := w.run i (discard (Server.respond r)) }
  | .clickEasyLink i => { p with world := w.attempt i Device.clickEasyLink }
  | .holdEasyLink i => { p with world := w.attempt i Device.holdEasyLink }
  | .requestPower i state => { p with world := w.run i (Act.requestPower state) }
  | .markDirty i => { p with world := w.run i Act.markDirty }
  | .commit i => { p with world := w.attempt i Act.commit }
  | .subscribe label kind =>
    match w.board.center.register kind (.application label) with
    | .ok (_, center) => { p with world := w.setCenter center }
    | .error _ => p
  | .unsubscribe kind id => { p with world := w.setCenter (w.board.center.remove kind id) }
  | .hardware h => { p with world := w.setHardware h }
  | .refuse refusing => { p with world := w.setRefusing refusing }
  | .openUpload i declared => p.openUpload i declared
  | .chunk k data => ((p.running? k).map (p.chunk k · data)).getD p
  | .finish k => ((p.running? k).map (p.finish k)).getD p
  | .breakOff k => ((p.running? k).map fun t => p.setTransfer k { t with state := .broken }).getD p

/-- Whether the event can happen now. Requests reach a server that listens; firmware comes as an
upload. -/
def permits (p : Scene) : Event → Bool
  | .resume k => (p.world.tasks[k]?).any fun (i, t) => p.world.isReady i t
  | .request i r => p.world.isListening i && Server.Resource.ofPath? r.path ≠ some .firmware
  | .openUpload i _ => p.world.isListening i
  | _ => true

/-- The status of the answer that the request gets now. -/
def status? (p : Scene) (i : Nat) (r : Server.Request) : Option Nat :=
  (p.world.on i (Server.respond r)).map (·.1.status)

/-- The scenes that can come about by events of a kind. -/
inductive Reachable (may : Scene → Event → Bool) (start : Scene) : Scene → Prop
  | start : Reachable may start start
  | step {p : Scene} {e : Event} :
      Reachable may start p → p.permits e → may p e → Reachable may start (p.step e)

/-- A board whose flash is erased, before anything is started on it. -/
def erased (layout : Layout) (capacity : Nat) (hardware : Hardware) : Scene :=
  ⟨.make (.make (.blank layout) capacity hardware) [], [], []⟩

/-- A board before anything is started on it. -/
def onBoard (b : Board) : Scene := ⟨.make b [], [], []⟩

def always (_ : Scene) (_ : Event) : Bool := true

namespace Reachable

variable {may : Scene → Event → Bool} {p q r : Scene}

theorem invariant {inv : Scene → Prop} (reachable : Reachable may p q) (start : inv p)
    (step : ∀ q e, Reachable may p q → q.permits e → may q e → inv q → inv (q.step e)) :
    inv q := by
  induction reachable with
  | start => exact start
  | step before permits allowed ih => exact step _ _ before permits allowed ih

theorem trans (first : Reachable may p q) (second : Reachable may q r) : Reachable may p r := by
  induction second with
  | start => exact first
  | step _ permits allowed ih => exact .step ih permits allowed

end Reachable

theorem running?_eq_some {p : Scene} {k : Nat} {x : Transfer} :
    p.running? k = some x ↔ p.transfers[k]? = some x ∧ x.state = .running := by
  simp [running?, Option.filter_eq_some_iff]

/-- The scene after one event after the other, if all of them can and may happen. -/
def run (may : Scene → Event → Bool) (p : Scene) : List Event → Option Scene
  | [] => some p
  | e :: events => if p.permits e && may p e then (p.step e).run may events else none

theorem run_cons {may : Scene → Event → Bool} {p q : Scene} {e : Event} {events : List Event}
    (ran : p.run may (e :: events) = some q) :
    p.permits e ∧ may p e ∧ (p.step e).run may events = some q := by
  simp only [run] at ran
  split at ran
  next can =>
    obtain ⟨permits, allowed⟩ := Bool.and_eq_true_iff.mp can
    exact ⟨permits, allowed, ran⟩
  next => cases ran

theorem reachable_run {may : Scene → Event → Bool} {p q : Scene} {events : List Event}
    (ran : p.run may events = some q) : Reachable may p q := by
  induction events generalizing p with
  | nil =>
      cases ran
      exact .start
  | cons e events ih =>
      obtain ⟨permits, allowed, ran⟩ := run_cons ran
      exact (Reachable.step .start permits allowed).trans (ih ran)

/-! The scheduler of `World` takes its steps among these. -/

section Scheduler

variable (p : Scene)

theorem reachable_settleSteps (fuel : Nat) :
    Reachable always p { p with world := World.settleSteps fuel p.world } := by
  induction fuel generalizing p with
  | zero => exact .start
  | succ fuel ih =>
      simp only [World.settleSteps]
      cases found : p.world.firstReady? with
      | none => exact .start
      | some k =>
          have ready : p.permits (.resume k) := by
            obtain ⟨inside, ready, -⟩ := List.findIdx?_eq_some_iff_getElem.mp found
            simpa [permits, List.getElem?_eq_getElem inside] using ready
          exact (Reachable.step .start ready rfl).trans (ih (p.step (.resume k)))

theorem reachable_settle : Reachable always p { p with world := p.world.settle } :=
  p.reachable_settleSteps _

end Scheduler

/-! A small board -/

def sampleHardware : Hardware where
  macAddress := .ok (Vector.replicate 6 0)
  rfVersion := .ok "1.0"
  answer _ := .ok ()
  bind port := .ok port

def sampleLayout : Layout := [(.config, ⟨0x4000, 256⟩), (.otaTemp, ⟨0x88000, 8⟩)]

def sample : Scene := erased sampleLayout 8 sampleHardware

def sampleOptions : Options := { Options.standard with mode := .easyLink, monitor := false }

/-- The device receives credentials, and waits for their network. -/
def joining : List Event :=
  [.boot sampleOptions DeviceInfo.product false, .resume 1,
    .notify (.easyLinkCompleted (some ⟨"Home", "secret"⟩)),
    .notify (.easyLinkExtraData [0x23, 1, 0, 0, 0]), .resume 1]

/-- The network does not answer in time, and the next discovery fails. -/
def failedJoin : List Event :=
  joining ++ [.pass 20000, .resume 1, .notify (.easyLinkCompleted none), .resume 1]

end Scene
end ConnectedDevice
