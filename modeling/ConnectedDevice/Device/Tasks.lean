import ConnectedDevice.Provisioning.Run

/-!
The tasks of a system: what each waits for, and what it does when it is woken. A task that is told
to end does so at its next wait point; only an announced power transition is carried out before.

A task may be told to end when what it waits for has come as well. A device takes either way then.
Here the end goes first, which is a choice of this model and no promise of the device: the power
daemon leaves its request, the monitor its check, the checkpoint its refresh, a timer its withdrawal
or its join, and a provisioning run what its session holds.
-/

namespace ConnectedDevice

open Act

/-- How far a woken task came. -/
inductive TaskStep where
  | waits (next : Task)
  | ends (result : Except Error Unit)

namespace Task

/-- When the clock wakes the task, if nothing else does. -/
def due? : Task → Option Nat
  | .power (.delaying due _) => some due
  | .monitor due => due
  | .checkpoint wait => wait.map (·.2)
  | .provisioning _ (.joining _ due _) => some due
  | .linger due => some due
  | .softApJoin due _ => some due
  | .power .idle | .provisioning _ _ => none

def isDue (t : Task) (now : Nat) : Bool := t.due?.any (· ≤ now)

/-- Whether a task is told to end. At a wait point it then ends, whatever else has come for it. -/
def isCancelled (t : Task) (d : Device) : Bool :=
  match t with
  | .power (.delaying ..) => false
  | .provisioning run _ => d.isCancelled run
  | _ => d.stopped

/-- Whether what the task waits for has come. -/
def isReady (t : Task) (d : Device) (now : Nat) : Bool :=
  t.isCancelled d || t.isDue now ||
    match t with
    | .power .idle => d.power.permit
    | .monitor none | .checkpoint none | .provisioning _ .start => true
    | .provisioning run _ => (d.session run).permit
    | _ => false

end Task

namespace Device

/-- Takes a power request. Settings that wait to be written are written first. -/
def takePowerRequest : Act PowerState := do
  let (state, power) := (← device).power.wake.take
  modifyDevice fun d => { d with power := power.clearDirty }
  if power.dirty then discard commit.run
  return state

def applyPower : PowerState → Act Unit
  | .normal => pure ()
  | .softwareReset => tell .reboot
  | .wlanPowerdown => tell (.radio .powerOff)
  | .standby => do
    tell (.radio .powerOff)
    tell .standby

/-- Looks at all checkpoints once. -/
def checkMonitor : Act TaskStep := do
  let d ← device
  match d.monitor.expired? (← now) with
  | some name => return .ends (.error (.monitorExpired name))
  | none =>
    modify fun s => { s with board := { s.board with reloads := s.board.reloads + 1 } }
    return .waits (.monitor (some ((← now) + d.monitor.period)))

/-- The watchdog is armed before the first check. A monitor without a period checks nothing. -/
def resumeMonitor (due : Option Nat) : Act TaskStep := do
  let d ← device
  if due.isNone then
    match ← (issue (.armWatchdog (d.monitor.period + limits.watchdogMargin))).run with
    | .error e => return .ends (.error e)
    | .ok _ => pure ()
  if d.stopped || d.monitor.period == 0 then return .ends (.ok ()) else checkMonitor

/-- Registers a checkpoint that has to be refreshed within a delay, and gives its handle. -/
def registerCheckpoint (name : String) (maxDelay : Nat) : Fallible Nat := do
  let (handle, monitor) ← Fallible.ofExcept
    ((← device).monitor.register name maxDelay (← now))
  modifyDevice fun d => { d with monitor }
  return handle

/-- Whether the checkpoint could be refreshed. -/
def updateCheckpoint (handle maxDelay : Nat) : Act Bool := do
  let (refreshed, monitor) := (← device).monitor.update handle maxDelay (← now)
  modifyDevice fun d => { d with monitor }
  return refreshed

/-- Keeps the checkpoint of the system itself alive, twice as often as it must. -/
def resumeCheckpoint (wait : Option (Nat × Nat)) : Act TaskStep := do
  let next (handle : Nat) : Act TaskStep := do
    return .waits (.checkpoint (some (handle, (← now) + limits.systemCheckpoint / 2)))
  match wait with
  | none =>
    match ← (registerCheckpoint "System" limits.systemCheckpoint).run with
    | .ok handle => next handle
    | .error e => return .ends (.error e)
  | some (handle, _) =>
    if (← device).stopped then return .ends (.ok ())
    discard (updateCheckpoint handle limits.systemCheckpoint)
    next handle

def resumeProvisioning (run : Nat) (wait : RunWait) : Act TaskStep := do
  match ← Provisioning.resume run wait with
  | some wait => return .waits (.provisioning run wait)
  | none => return .ends (.ok ())

/-- What is done once, unless the system was stopped before or at the same time. -/
def unlessStopped (act : Act Unit) : Act TaskStep := do
  if !(← device).stopped then act
  return .ends (.ok ())

def leaveSoftAp (params : JoinParams) : Act Unit := do
  tell (.radio .suspendSoftAp)
  connect params

end Device
end ConnectedDevice
