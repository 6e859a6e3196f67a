import ConnectedDevice.Provisioning.Handlers

/-!
A provisioning run, from one wait point to the next. An attempt is a discovery, which the session
decides, and a join, which must succeed within a time; after the last attempt, or a discovery that
failed, the run falls back to the soft access point or to the settings from before it. A run that is
cancelled ends at its next wait point, also if its session was decided or connected by then: of the
two ways that are open there, the model takes this one.
-/

namespace ConnectedDevice.Provisioning

open Act

inductive Progress where
  | waiting (wait : RunWait)
  | ended (outcome : Outcome)
deriving DecidableEq, Repr

/-- The kinds of notifications that a run listens to, in the order of registration. -/
def kinds : List NotificationKind := [.wifiStatusChanged, .easyLinkCompleted, .easyLinkExtraData]

/-- Registers a handler for every kind, whether the others succeed or not. The registrations, and
the last failure. -/
def registerAll (h : Handler) : List NotificationKind →
    Act (List (NotificationKind × Nat) × Option Error)
  | [] => return ([], none)
  | kind :: kinds => do
    match ← (register kind h).run with
    | .ok subscription =>
      let (subscriptions, failure) ← registerAll h kinds
      return (subscription :: subscriptions, failure)
    | .error e =>
      let (subscriptions, failure) ← registerAll h kinds
      return (subscriptions, failure.or (some e))

/-- Starts a run unless one goes on, and gives its number. -/
def start : Fallible Nat := do
  let d ← device
  if d.provisioning then throw .provisioningRuns
  let run := d.runs.length
  let (subscriptions, failure) ← registerAll (.provisioning (← get).index run) kinds
  match failure with
  | some e =>
    unregister subscriptions
    throw e
  | none =>
    modifyDevice fun d =>
      { d with
        provisioning := true
        runs := d.runs ++
          [⟨d.options.mode.discoveryMethod?, .fresh, false, subscriptions, none⟩] }
    spawn (.provisioning run .start)
    return run

def renew (run : Nat) : Act Unit := modifyDevice fun d => d.modifySession run fun _ => .fresh

/-- Takes the settings back to those before the run. A device that had no network turns its radio
off; another one counts as configured and joins its network again. -/
def rollBack (before : SystemConfig) : Act Progress := do
  match (← device).store.loaded with
  | none => return .ended .poweredDown
  | some s =>
    if before.configured = .unconfigured then
      setSettings (s.modifySystem fun _ => before)
      discard commit.run
      tell (.radio .powerOff)
      return .ended .poweredDown
    else
      let system := { before with configured := .allConfigured }
      setSettings (s.modifySystem fun _ => system)
      discard commit.run
      connect (.normal system)
      return .ended .rolledBack

def openSoftAp (run : Nat) (before : SystemConfig) : Act Progress := do
  hook .softApWillStart
  renew run
  let mac := (← device).mac.getD (Vector.replicate 6 0)
  match ← (issue (.radio (.startSoftAp (.fallback mac)))).run with
  | .error _ => rollBack before
  | .ok _ =>
    announce .softAp
    return .waiting .softAp

def fail (run : Nat) (before : SystemConfig) : Act Progress := do
  if (← device).options.mode.fallsBackToSoftAp then openSoftAp run before else rollBack before

/-- Starts an attempt with a session of its own, if one is left. -/
def attempt (run number : Nat) (method : DiscoveryMethod) (before : SystemConfig) :
    Act Progress := do
  let options := (← device).options
  if options.maxAttempts < number then fail run before
  else
    renew run
    match ← (issue (.radio (.startDiscovery method options.discoveryTimeout))).run with
    | .ok _ => pure ()
    | .error _ => finish run false
    return .waiting (.discovering number before)

/-- The first attempt, or what the settings ask for instead. -/
def beginWith (run : Nat) (s : Settings) : Act Progress := do
  let before := { s.system with bypass := .no }
  if s.system.bypass ≠ .no then
    setSettings (s.modifySystem fun _ => before)
    discard commit.run
  match s.system.bypass with
  | .join =>
    connect (.fast before)
    return .ended .bypassed
  | .softAp =>
    hook .configWillStart
    openSoftAp run before
  | .no =>
    hook .configWillStart
    match ((← device).runs[run]?).bind (·.method) with
    | some method => attempt run 1 method before
    | none => openSoftAp run before

def begin (run : Nat) : Act Progress := do
  if (← device).options.configServer then announce .station
  match (← device).store.loaded with
  | none => return .ended .poweredDown
  | some s => beginWith run s

/-- Takes the stored permit, and gives the session as it stands. -/
def wake (run : Nat) : Act Session := do
  modifyDevice fun d => d.modifySession run (·.takePermit)
  return (← device).session run

/-- Joins the network whose credentials arrived. -/
def join (run number : Nat) (before : SystemConfig) : Act Progress := do
  hook .easyLinkSucceeded
  match (← device).store.loaded with
  | none => fail run before
  | some s =>
    let s := s.modifySystem (·.advance .wlanUnconfigured)
    setSettings s
    discard commit.run
    connect (.normal s.system)
    let d ← device
    if (d.session run).connected then return .ended .connected
    else return .waiting (.joining number ((← now) + d.options.connectTimeout) before)

def afterDiscovery (run number : Nat) (before : SystemConfig) : Act Progress := do
  if (← device).isCancelled run then
    tell (.radio .stopDiscovery)
    return .ended .cancelled
  match (← wake run).stage with
  | .pending => return .waiting (.discovering number before)
  | .failed => fail run before
  | .succeeded => join run number before

def afterJoin (run number due : Nat) (before : SystemConfig) : Act Progress := do
  if (← device).isCancelled run then return .ended .cancelled
  if (← wake run).connected then return .ended .connected
  if (← now) < due then return .waiting (.joining number due before)
  match ((← device).runs[run]?).bind (·.method) with
  | some method => attempt run (number + 1) method before
  | none => fail run before

def afterSoftAp (run : Nat) : Act Progress := do
  if (← device).isCancelled run then return .ended .cancelled
  if (← wake run).connected then return .ended .softApConnected
  return .waiting .softAp

def proceed (run : Nat) : RunWait → Act Progress
  | .start => begin run
  | .discovering number before => afterDiscovery run number before
  | .joining number due before => afterJoin run number due before
  | .softAp => afterSoftAp run

/-- The end of a run: its registrations go, and the station stays announced for a while. -/
def close (run : Nat) (outcome : Outcome) : Act Unit := do
  hook .configWillStop
  spawn (.linger ((← now) + limits.lingerTime))
  unregister ((((← device).runs[run]?).map (·.subscriptions)).getD [])
  modifyDevice fun d =>
    { d.modifyRun run (fun r => { r with outcome := some outcome }) with provisioning := false }

/-- Takes a run to its next wait point, or to its end. -/
def resume (run : Nat) (wait : RunWait) : Act (Option RunWait) := do
  match ← proceed run wait with
  | .waiting wait => return some wait
  | .ended outcome =>
    close run outcome
    return none

end ConnectedDevice.Provisioning
