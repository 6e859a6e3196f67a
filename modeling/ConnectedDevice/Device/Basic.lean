import ConnectedDevice.Device.Board
import ConnectedDevice.Monitor
import ConnectedDevice.Power
import ConnectedDevice.Provisioning.Session
import ConnectedDevice.Store

/-!
A system and its tasks. A task is kept as the point where it waits; an act of a system changes the
system and the board, and may start further tasks.
-/

namespace ConnectedDevice

inductive PowerWait where
  | idle
  /-- a transition was announced and is carried out at the given time -/
  | delaying (due : Nat) (state : PowerState)
deriving DecidableEq, Repr

inductive RunWait where
  | start
  | discovering (attempt : Nat) (before : SystemConfig)
  | joining (attempt due : Nat) (before : SystemConfig)
  | softAp
deriving DecidableEq, Repr

inductive Task where
  | power (wait : PowerWait)
  /-- the time of the next check, nothing before the first -/
  | monitor (due : Option Nat)
  /-- the handle of the checkpoint and the time of its next refresh -/
  | checkpoint (wait : Option (Nat × Nat))
  | provisioning (run : Nat) (wait : RunWait)
  /-- withdraws the station's announcement -/
  | linger (due : Nat)
  /-- leaves the soft access point for a network -/
  | softApJoin (due : Nat) (params : JoinParams)
deriving DecidableEq, Repr

structure Device where
  options : Options
  info : DeviceInfo
  /-- whether the application hears of provisioning runs; otherwise all data are accepted -/
  hooked : Bool
  store : Store
  power : PowerRequests
  monitor : Monitor
  mac : Option MacAddress
  rfVersion : Option String
  port : Nat
  listening : Bool
  /-- of the last provisioning session -/
  identifier : UInt32
  /-- whether a provisioning run goes on -/
  provisioning : Bool
  runs : List Run
  /-- the run that was started at boot, until its handle is taken -/
  bootRun : Option Nat
  stopped : Bool
  /-- the registrations that the system holds -/
  subscriptions : List (NotificationKind × Nat)

namespace Device

def make (options : Options) (info : DeviceInfo) (hooked : Bool) : Device where
  options := options
  info := info
  hooked := hooked
  store := .make DeviceInfo.defaultName DeviceInfo.configSeed
  power := .none
  monitor := .make options.monitorPeriod
  mac := none
  rfVersion := none
  port := options.port
  listening := false
  identifier := 0
  provisioning := false
  runs := []
  bootRun := none
  stopped := false
  subscriptions := []

def announcement (d : Device) (interface : Interface) : Announcement :=
  .make d.info (d.mac.getD (Vector.replicate 6 0)) (d.rfVersion.getD "") d.port
    d.options.configServer interface d.identifier

def session (d : Device) (run : Nat) : Session := ((d.runs[run]?).map (·.session)).getD .fresh

def isCancelled (d : Device) (run : Nat) : Bool := d.stopped || (d.runs[run]?).any (·.cancelled)

def modifyRun (d : Device) (run : Nat) (f : Run → Run) : Device :=
  { d with runs := d.runs.modify run f }

def modifySession (d : Device) (run : Nat) (f : Session → Session) : Device :=
  d.modifyRun run fun r => { r with session := f r.session }

end Device

/-- A system on its board, and the tasks that it started. -/
structure Site where
  /-- the number of the system -/
  index : Nat
  board : Board
  device : Device
  spawned : List Task

abbrev Act := StateM Site

/-- An act that can fail. What it changed before the failure stays. -/
abbrev Fallible := ExceptT Error Act

def Fallible.ofExcept {α : Type} (r : Except Error α) : Fallible α := ExceptT.mk (pure r)

namespace Act

def device : Act Device := do return (← get).device

def now : Act Nat := do return (← get).board.now

def modifyDevice (f : Device → Device) : Act Unit := modify fun s => { s with device := f s.device }

def modifyCenter (f : Center Handler → Center Handler) : Act Unit :=
  modify fun s => { s with board := { s.board with center := f s.board.center } }

def spawn (t : Task) : Act Unit := modify fun s => { s with spawned := s.spawned ++ [t] }

/-- Gives a command and hears the answer. -/
def issue (c : Command) : Fallible Unit := ExceptT.mk fun s =>
  let (answer, board) := s.board.issue c
  (answer, { s with board })

/-- Gives a command whose refusal changes nothing. -/
def tell (c : Command) : Act Unit := do discard (issue c).run

def hook (h : Hook) : Act Unit := do if (← device).hooked then tell (.hook h)

def settings : Fallible Settings := do Fallible.ofExcept (← device).store.lock

def setSettings (s : Settings) : Act Unit :=
  modifyDevice fun d => { d with store := d.store.set s }

/-- Puts the flash through an operation, which leaves it as it was where it fails. -/
def onFlash (operation : Nor → Except FlashError Nor) : Fallible Unit := do
  match operation (← get).board.flash with
  | .ok flash => modify fun s => { s with board := { s.board with flash } }
  | .error e => throw (.flash e)

/-- Writes the record to flash. -/
def commit : Fallible Unit := ExceptT.mk fun s =>
  let (answer, flash) := s.device.store.commit s.board.flash
  (answer, { s with board := { s.board with flash } })

def announce (i : Interface) : Act Unit := do tell (.announce i ((← device).announcement i))

def reannounce (i : Interface) : Act Unit := do tell (.reannounce i ((← device).announcement i))

def connect (p : JoinParams) : Act Unit := tell (.radio (.connect p))

def setIdentifier (identifier : UInt32) : Act Unit :=
  modifyDevice fun d => { d with identifier }

def requestPower (s : PowerState) : Act Unit :=
  modifyDevice fun d => { d with power := d.power.request s }

def markDirty : Act Unit := modifyDevice fun d => { d with power := d.power.markDirty }

/-- Registers a handler, and remembers the registration under its kind. -/
def register (kind : NotificationKind) (h : Handler) : Fallible (NotificationKind × Nat) :=
  ExceptT.mk fun s =>
    match s.board.center.register kind h with
    | .ok (id, center) => (.ok (kind, id), { s with board := { s.board with center } })
    | .error e => (.error e, s)

def unregister (subscriptions : List (NotificationKind × Nat)) : Act Unit :=
  modifyCenter fun c => subscriptions.foldl (fun c (kind, id) => c.remove kind id) c

end Act
end ConnectedDevice
