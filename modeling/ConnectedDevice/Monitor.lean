import ConnectedDevice.Device.Options
import ConnectedDevice.Error

/-!
The system monitor: checkpoints that must be refreshed within a delay. While all of them are alive
the watchdog is reloaded; a checkpoint that missed its time stays expired.
-/

namespace ConnectedDevice

structure Checkpoint where
  name : String
  lastUpdate : Nat
  maxDelay : Nat
deriving DecidableEq, Repr

def Checkpoint.isExpired (c : Checkpoint) (now : Nat) : Bool := c.maxDelay < now - c.lastUpdate

structure Monitor where
  period : Nat
  checkpoints : List Checkpoint
deriving DecidableEq, Repr

namespace Monitor

def make (period : Nat) : Monitor := ⟨period, []⟩

/-- A new checkpoint. Its handle is its position. -/
def register (m : Monitor) (name : String) (maxDelay now : Nat) : Except Error (Nat × Monitor) :=
  if limits.monitors ≤ m.checkpoints.length then .error (.monitorFull name)
  else
    .ok (m.checkpoints.length,
      { m with checkpoints := m.checkpoints ++ [⟨name, now, maxDelay⟩] })

/-- Refreshes a checkpoint unless it is expired or unknown. -/
def update (m : Monitor) (handle maxDelay now : Nat) : Bool × Monitor :=
  match m.checkpoints[handle]? with
  | none => (false, m)
  | some c =>
    if c.isExpired now then (false, m)
    else
      let refreshed := { c with lastUpdate := now, maxDelay }
      (true, { m with checkpoints := m.checkpoints.set handle refreshed })

def expired? (m : Monitor) (now : Nat) : Option String :=
  (m.checkpoints.find? (·.isExpired now)).map (·.name)

end Monitor
end ConnectedDevice
