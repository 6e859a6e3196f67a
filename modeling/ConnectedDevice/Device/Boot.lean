import ConnectedDevice.Device.Reactions
import ConnectedDevice.Provisioning.Run

/-!
The start of a system: settings, power, handlers, monitor, network, server. A device that is fully
configured then joins its network, any other one is provisioned. A start that fails leaves what it
did so far; the system that it belongs to is to be shut down.
-/

namespace ConnectedDevice.Device

open Act

def load : Fallible Unit := do
  let store ← Fallible.ofExcept
    ((← device).store.init (← get).board.flash (← device).options.appDataSize)
  modifyDevice fun d => { d with store }

/-- Registers a handler for one kind after the other, up to the first failure. The registrations,
and the failure. -/
def registerInOrder (h : Handler) : List NotificationKind →
    Act (List (NotificationKind × Nat) × Option Error)
  | [] => return ([], none)
  | kind :: kinds => do
    match ← (register kind h).run with
    | .ok subscription =>
      let (subscriptions, failure) ← registerInOrder h kinds
      return (subscription :: subscriptions, failure)
    | .error e => return ([], some e)

/-- Registers the handlers of the system, all or none. -/
def registerHandlers : Fallible Unit := do
  let (subscriptions, failure) ← registerInOrder (.system (← get).index) kinds
  match failure with
  | some e =>
    unregister subscriptions
    throw e
  | none => modifyDevice fun d => { d with subscriptions }

def startNetwork : Fallible Unit := do
  let hardware := (← get).board.hardware
  let mac ← Fallible.ofExcept hardware.macAddress
  let rfVersion ← Fallible.ofExcept hardware.rfVersion
  modifyDevice fun d => { d with mac := some mac, rfVersion := some rfVersion }
  let s ← settings
  setSettings { s with status := { s.status with mac := mac.text, rfVersion } }
  issue (.radio (.setPowerSave s.system.rfPowerSave))

def listen : Fallible Unit := do
  let asked := (← device).options.port
  match (← get).board.hardware.bind asked with
  | .ok port => modifyDevice fun d => { d with port, listening := true }
  | .error text => throw (.portNotBound asked text)

/-- Joins the stored network with what an earlier join learned. -/
def joinStored : Fallible Unit := do
  connect (.fast (← settings).system)
  if (← device).options.configServer then announce .station

def boot : Fallible Unit := do
  load
  let configured := (← settings).system.configured
  spawn (.power .idle)
  registerHandlers
  if (← device).options.monitor then
    spawn (.monitor none)
    spawn (.checkpoint none)
  startNetwork
  if (← device).options.configServer then listen
  if configured.needsProvisioning then
    let run ← Provisioning.start
    modifyDevice fun d => { d with bootRun := some run }
  else joinStored

/-- Starts a provisioning run on demand. -/
def startProvisioning : Fallible Nat := do
  if (← device).stopped then throw .stopped
  Provisioning.start

/-- Gives the run that was started at boot, once. -/
def takeProvisioning : Act (Option Nat) := do
  let run := (← device).bootRun
  modifyDevice fun d => { d with bootRun := none }
  return run

/-- Tells a provisioning run to end. -/
def cancelRun (run : Nat) : Act Unit :=
  modifyDevice (·.modifyRun run ({ · with cancelled := true }))

/-- Tells all tasks to end. -/
def cancelTasks : Act Unit := modifyDevice ({ · with stopped := true })

/-- Tells all tasks to end, and gives up the handlers and the server. -/
def stop : Act Unit := do
  unregister (← device).subscriptions
  cancelTasks
  modifyDevice fun d => { d with listening := false, bootRun := none }

end ConnectedDevice.Device
