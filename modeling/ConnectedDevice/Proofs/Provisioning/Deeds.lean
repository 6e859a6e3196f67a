import ConnectedDevice.Proofs.Device.Basic

/-!
The deeds of a provisioning run. A run knows the settings from before it, to which it may take the
settings back; no other settings come out of it but those that its notifications deliver.
-/

namespace ConnectedDevice

open Act

def SystemConfig.rolledBack (before : SystemConfig) : SystemConfig :=
  if before.configured = .unconfigured then before
  else { before with configured := .allConfigured }

inductive Notification.Brings : Notification → Change → Prop
  | addresses (ip : IpStatus) (status : RuntimeStatus) :
      Brings (.dhcpCompleted ip) (.observe status)
  | parameters (ap : AccessPoint) : Brings (.wifiParametersChanged ap) (.learn ap)
  | stationUp : Brings (.wifiStatusChanged .stationUp) (.advance .allConfigured)
  | credentials (c : Credentials) : Brings (.easyLinkCompleted (some c)) (.credentials c)
  | extraData {data : Bytes} {extra : ExtraData} :
      ExtraData.parse data = .ok extra →
        Brings (.easyLinkExtraData data) (.addresses extra.staticIp)

/-- What the handler of a run makes of its session. -/
inductive Notification.Hears : Notification → (Session → Session) → Prop
  | connect : Hears (.wifiStatusChanged .stationUp) (·.connect)
  | fails (received : Option Credentials) : Hears (.easyLinkCompleted received) (·.finish false)
  | credentials (c : Credentials) : Hears (.easyLinkCompleted (some c)) (·.finish true)
  | extraData (data : Bytes) (success : Bool) : Hears (.easyLinkExtraData data) (·.finish success)

/-- What the handlers of a notification may do, with the sessions of which runs. -/
inductive Notification.May (n : Notification) (listens : Nat → Prop) : Deed → Prop
  | commit : n.May listens .commit
  | brings {c : Change} : n.Brings c → n.May listens (.change c)
  | session {run : Nat} {f : Session → Session} :
      n.Hears f → listens run → n.May listens (.session run f)

theorem Notification.May.mono {n : Notification} {listens more : Nat → Prop} {d : Deed}
    (weaker : ∀ run, listens run → more run) (may : n.May listens d) : n.May more d := by
  cases may with
  | commit => exact .commit
  | brings brings => exact .brings brings
  | session hears listening => exact .session hears (weaker _ listening)

def RunWait.before? : RunWait → Option SystemConfig
  | .discovering _ before | .joining _ _ before => some before
  | .start | .softAp => none

/-- The run was told to end, and will learn it where it waits for its first discovery. -/
def Device.givesUp (d : Device) (run : Nat) (s : Settings) : Bool :=
  d.isCancelled run && s.system.bypass = .no && ((d.runs[run]?).bind (·.method)).isSome &&
    1 ≤ d.options.maxAttempts

/-- The settings to which a run can take its device back when it goes on from where it waits. One
that starts takes those that it finds, unless it has nothing to do but to join. -/
def Device.target? (d : Device) (run : Nat) : RunWait → Option SystemConfig
  | .start => d.store.loaded.bind fun s =>
    if s.system.bypass = .join ∨ d.givesUp run s then none
    else some { s.system with bypass := .no }
  | wait => if d.isCancelled run then none else wait.before?

theorem Device.target?_of_ne_start {d : Device} {run : Nat} {wait : RunWait}
    (waits : wait ≠ .start) :
    d.target? run wait = if d.isCancelled run then none else wait.before? := by
  cases wait with
  | start => exact absurd rfl waits
  | _ => rfl

theorem Device.target?_start {d : Device} {run : Nat} {before : SystemConfig} :
    d.target? run .start = some before ↔ ∃ st, d.store.loaded = some st ∧
      st.system.bypass ≠ .join ∧ d.givesUp run st = false ∧
        { st.system with bypass := .no } = before := by
  cases loaded : d.store.loaded with
  | none => simp [target?, loaded]
  | some st => simp [target?, loaded, and_assoc]

namespace Provisioning

inductive May (run : Nat) (target : Option SystemConfig) : Deed → Prop
  | commit : May run target .commit
  | clearBypass : May run target (.change .clearBypass)
  | advance : May run target (.change (.advance .wlanUnconfigured))
  | restore {before : SystemConfig} :
      before ∈ target → May run target (.change (.restore before.rolledBack))
  | session (f : Session → Session) : May run target (.session run f)

/-- How far a run may come. What it remembers does not matter if it was told to end. -/
def Progress.Within (told : Bool) (target : Option SystemConfig) : Progress → Prop
  | .waiting wait => wait ≠ .start ∧ ∀ before ∈ wait.before?, told ∨ before ∈ target
  | .ended outcome =>
    outcome = .rolledBack → ∃ before ∈ target, before.configured ≠ .unconfigured

variable {s : Site} {told : Bool} (run : Nat) (before : SystemConfig)

theorem runs_finish {may : Deed → Prop} {success : Bool}
    (allowed : may (.session run (·.finish success))) : s.Runs may anyway (finish run success) :=
  runs_modifySession allowed

section Session

variable {may : Deed → Prop} (allowed : ∀ f, may (.session run f))
include allowed

theorem runs_renew : s.Runs may anyway (renew run) := runs_modifySession (allowed _)

theorem runs_wake : s.Runs may anyway (wake run) :=
  .bind (runs_modifySession (allowed _)) fun _ _ _ => .device (.pure trivial)

end Session

theorem silent_acceptsAuth (auth : Bytes) : Silent (acceptsAuth auth) := by
  refine silent_device.bind fun d => ?_
  cases d.hooked with
  | false => exact .pure _
  | true =>
      simp only [Bool.not_true, Bool.false_eq_true, if_false]
      refine (silent_issue _).bind fun answer => ?_
      cases answer <;> exact .pure _

/-! Handlers -/

theorem runs_onStatus (event : WifiEvent) :
    s.Runs ((Notification.wifiStatusChanged event).May (· = run)) anyway (onStatus run event) := by
  cases event with
  | stationUp =>
      refine .bindSilent (silent_reannounce _) fun _ t _ => .device ?_
      cases loaded : t.device.store.loaded with
      | none => exact runs_modifySession (.session .connect rfl)
      | some st =>
          refine .bind (runs_setSettings (.advance .allConfigured) loaded (.brings .stationUp))
            fun _ _ _ => ?_
          refine .bind (runs_tryCommit .commit) fun _ _ _ => ?_
          exact runs_modifySession (.session .connect rfl)
  | apDown => exact .ofSilent (silent_tell _)
  | stationDown => exact .pure trivial
  | apUp => exact .pure trivial

theorem runs_onCredentials (received : Option Credentials) :
    s.Runs ((Notification.easyLinkCompleted received).May (· = run)) anyway
      (onCredentials run received) := by
  refine .device ?_
  split
  · exact .pure trivial
  · split
    next c st loaded =>
      refine .bind (runs_setSettings (.credentials c) loaded (.brings (.credentials c)))
        fun _ _ _ => ?_
      split
      · exact runs_finish run (.session (.credentials c) rfl)
      · exact .pure trivial
    next => exact runs_finish run (.session (.fails _) rfl)

theorem runs_onExtraData (data : Bytes) :
    s.Runs ((Notification.easyLinkExtraData data).May (· = run)) anyway (onExtraData run data) := by
  refine .device ?_
  split
  · exact .pure trivial
  · cases parsed : ExtraData.parse data with
    | error e => exact runs_finish run (.session (.extraData data false) rfl)
    | ok extra =>
        refine .bindSilent (silent_acceptsAuth _) fun accepted t _ => ?_
        cases accepted with
        | false => exact runs_finish run (.session (.extraData data false) rfl)
        | true =>
            refine .bindSilent (silent_setIdentifier _) fun _ u _ => .device ?_
            cases loaded : u.device.store.loaded with
            | none => exact runs_finish run (.session (.extraData data false) rfl)
            | some st =>
                refine .bind (runs_setSettings (.addresses extra.staticIp) loaded
                  (.brings (.extraData parsed))) fun _ _ _ => ?_
                exact runs_finish run (.session (.extraData data true) rfl)

theorem runs_handle (n : Notification) : s.Runs (n.May (· = run)) anyway (handle run n) := by
  cases n with
  | wifiStatusChanged event => exact runs_onStatus run event
  | easyLinkCompleted received => exact runs_onCredentials run received
  | easyLinkExtraData data => exact runs_onExtraData run data
  | _ => exact .pure trivial

/-! Wait points -/

theorem runs_rollBack :
    s.Runs (May run (some before)) (Progress.Within told (some before)) (rollBack before) := by
  refine .device ?_
  cases loaded : s.device.store.loaded with
  | none => exact .pure (by simp [Progress.Within])
  | some st =>
      have allowed : May run (some before) (.change (.restore before.rolledBack)) := .restore rfl
      have restored := runs_setSettings (.restore before.rolledBack) loaded allowed
      by_cases fresh : before.configured = .unconfigured
      · simp only [SystemConfig.rolledBack, fresh, if_true] at restored ⊢
        refine .bind restored fun _ _ _ => ?_
        refine .bind (runs_tryCommit .commit) fun _ _ _ => ?_
        exact .bindSilent (silent_tell _) fun _ _ _ => .pure (by simp [Progress.Within])
      · simp only [SystemConfig.rolledBack, fresh, if_false] at restored ⊢
        refine .bind restored fun _ _ _ => ?_
        refine .bind (runs_tryCommit .commit) fun _ _ _ => ?_
        exact .bindSilent (silent_connect _) fun _ _ _ => .pure fun _ => ⟨before, rfl, fresh⟩

theorem runs_openSoftAp :
    s.Runs (May run (some before)) (Progress.Within told (some before))
      (openSoftAp run before) := by
  refine .bindSilent (silent_hook _) fun _ _ _ => ?_
  refine .bind (runs_renew run .session) fun _ _ _ => .device ?_
  refine .bindSilent (silent_issue _) fun answer _ _ => ?_
  cases answer with
  | error e => exact runs_rollBack run before
  | ok _ =>
      exact .bindSilent (silent_announce _) fun _ _ _ =>
        .pure (by simp [Progress.Within, RunWait.before?])

theorem runs_fail :
    s.Runs (May run (some before)) (Progress.Within told (some before)) (fail run before) := by
  refine .device ?_
  split
  · exact runs_openSoftAp run before
  · exact runs_rollBack run before

theorem runs_attempt_left {target : Option SystemConfig} {number : Nat} (method : DiscoveryMethod)
    (left : number ≤ s.device.options.maxAttempts) (known : told ∨ before ∈ target) :
    s.Runs (May run target) (Progress.Within told target) (attempt run number method before) := by
  have waits : (Progress.waiting (.discovering number before)).Within told target := by
    simpa [Progress.Within, RunWait.before?] using known
  refine .device ?_
  simp only [Nat.not_lt.mpr left, if_false]
  refine .bind (runs_renew run .session) fun _ _ _ => ?_
  refine .bindSilent (silent_issue _) fun answer _ _ => ?_
  cases answer with
  | ok _ => exact .pure waits
  | error e => exact .bind (runs_finish run (.session _)) fun _ _ _ => .pure waits

theorem runs_attempt (number : Nat) (method : DiscoveryMethod) :
    s.Runs (May run (some before)) (Progress.Within told (some before))
      (attempt run number method before) := by
  by_cases left : number ≤ s.device.options.maxAttempts
  · exact runs_attempt_left run before method left (.inr rfl)
  · refine .device ?_
    simp only [Nat.not_le.mp left, if_true]
    exact runs_fail run before

theorem runs_join (number : Nat) :
    s.Runs (May run (some before)) (Progress.Within told (some before))
      (join run number before) := by
  refine .bindSilent (silent_hook _) fun _ t _ => .device ?_
  cases loaded : t.device.store.loaded with
  | none => exact runs_fail run before
  | some st =>
      refine .bind (runs_setSettings (.advance .wlanUnconfigured) loaded .advance)
        fun _ _ _ => ?_
      refine .bind (runs_tryCommit .commit) fun _ _ _ => ?_
      refine .bindSilent (silent_connect _) fun _ _ _ => .device ?_
      split
      · exact .pure (by simp [Progress.Within])
      · exact .now (.pure (by simp [Progress.Within, RunWait.before?]))

theorem runs_afterDiscovery (number : Nat) :
    s.Runs (May run (s.device.target? run (.discovering number before)))
      (Progress.Within told (s.device.target? run (.discovering number before)))
      (afterDiscovery run number before) := by
  refine .device ?_
  cases cancelled : s.device.isCancelled run with
  | true => exact .bindSilent (silent_tell _) fun _ _ _ => .pure (by simp [Progress.Within])
  | false =>
      have target : s.device.target? run (.discovering number before) = some before := by
        simp [Device.target?, RunWait.before?, cancelled]
      rw [target]
      refine .bind (runs_wake run .session) fun session _ _ => ?_
      cases session.stage with
      | pending => exact .pure (by simp [Progress.Within, RunWait.before?])
      | failed => exact runs_fail run before
      | succeeded => exact runs_join run before number

theorem runs_afterJoin (number due : Nat) :
    s.Runs (May run (s.device.target? run (.joining number due before)))
      (Progress.Within told (s.device.target? run (.joining number due before)))
      (afterJoin run number due before) := by
  refine .device ?_
  cases cancelled : s.device.isCancelled run with
  | true => exact .pure (by simp [Progress.Within])
  | false =>
      have target : s.device.target? run (.joining number due before) = some before := by
        simp [Device.target?, RunWait.before?, cancelled]
      rw [target]
      refine .bind (runs_wake run .session) fun session _ _ => ?_
      split
      · exact .pure (by simp [Progress.Within])
      · refine .now ?_
        split
        · exact .pure (by simp [Progress.Within, RunWait.before?])
        · refine .device ?_
          split
          · exact runs_attempt run before (number + 1) _
          · exact runs_fail run before

theorem runs_afterSoftAp {target : Option SystemConfig} :
    s.Runs (May run target) (Progress.Within told target) (afterSoftAp run) := by
  refine .device ?_
  split
  · exact .pure (by simp [Progress.Within])
  · refine .bind (runs_wake run .session) fun session _ _ => ?_
    split
    · exact .pure (by simp [Progress.Within])
    · exact .pure (by simp [Progress.Within, RunWait.before?])

theorem runs_beginWith {st : Settings} (loaded : s.device.store.loaded = some st) :
    s.Runs (May run (s.device.target? run .start))
      (Progress.Within (s.device.isCancelled run) (s.device.target? run .start))
      (beginWith run st) := by
  let before := { st.system with bypass := .no }
  have cleared {target : Option SystemConfig} : s.Runs (May run target) anyway
      (setSettings (st.modifySystem fun _ => before)) :=
    runs_setSettings .clearBypass loaded .clearBypass
  cases bypass : st.system.bypass with
  | no =>
      simp only [beginWith, bypass]
      refine .bindQuiet (quiet_hook _) fun _ t same => .device ?_
      cases gives : s.device.givesUp run st with
      | true =>
          have target : s.device.target? run .start = none := by
            simp [Device.target?, loaded, gives]
          simp only [Device.givesUp, Bool.and_eq_true, decide_eq_true_eq] at gives
          obtain ⟨⟨⟨told, -⟩, discovers⟩, left⟩ := gives
          obtain ⟨method, chosen⟩ := Option.isSome_iff_exists.mp discovers
          rw [target, same, chosen]
          exact runs_attempt_left run before method (same ▸ left) (.inl told)
      | false =>
          have target : s.device.target? run .start = some before := by
            simp [Device.target?, loaded, gives, bypass, before]
          rw [target]
          split
          · exact runs_attempt run before 1 _
          · exact runs_openSoftAp run before
  | join =>
      have target : s.device.target? run .start = none := by
        simp [Device.target?, loaded, bypass]
      rw [target]
      simp only [beginWith, bypass]
      refine .bind cleared fun _ _ _ => .bind (runs_tryCommit .commit) fun _ _ _ => ?_
      exact .bindSilent (silent_connect _) fun _ _ _ => .pure (by simp [Progress.Within])
  | softAp =>
      have target : s.device.target? run .start = some before := by
        simp [Device.target?, loaded, bypass, before, Device.givesUp]
      rw [target]
      simp only [beginWith, bypass]
      refine .bind cleared fun _ _ _ => .bind (runs_tryCommit .commit) fun _ _ _ => ?_
      exact .bindSilent (silent_hook _) fun _ _ _ => runs_openSoftAp run before

/-- What a run begins with, once the system is announced. -/
def beginStored (run : Nat) : Act Progress := do
  match (← device).store.loaded with
  | none => return .ended .poweredDown
  | some st => beginWith run st

theorem begin_eq (run : Nat) : begin run = (do
    if (← device).options.configServer then announce .station
    beginStored run) :=
  rfl

theorem runs_beginStored :
    s.Runs (May run (s.device.target? run .start))
      (Progress.Within (s.device.isCancelled run) (s.device.target? run .start))
      (beginStored run) := by
  refine .device ?_
  cases loaded : s.device.store.loaded with
  | none => exact .pure (by simp [Progress.Within])
  | some st => exact runs_beginWith run loaded

theorem runs_begin :
    s.Runs (May run (s.device.target? run .start))
      (Progress.Within (s.device.isCancelled run) (s.device.target? run .start))
      (begin run) := by
  rw [begin_eq]
  refine .device ?_
  split
  · exact .bindQuiet (quiet_announce _) fun _ t same => same ▸ runs_beginStored run
  · exact runs_beginStored run

theorem runs_proceed (wait : RunWait) :
    s.Runs (May run (s.device.target? run wait))
      (Progress.Within (s.device.isCancelled run) (s.device.target? run wait))
      (proceed run wait) := by
  cases wait with
  | start => exact runs_begin run
  | discovering number before => exact runs_afterDiscovery run before number
  | joining number due before => exact runs_afterJoin run before number due
  | softAp => exact runs_afterSoftAp run

/-! Ends and starts -/

inductive MayResume (run : Nat) (target : Option SystemConfig) : Deed → Prop
  | proceed {d : Deed} : May run target d → MayResume run target d
  | linger (due : Nat) : MayResume run target (.spawn (.linger due))
  | close {told : Bool} {outcome : Outcome} :
      (Progress.ended outcome).Within told target → MayResume run target (.close run outcome)

theorem runs_close {target : Option SystemConfig} {outcome : Outcome}
    (known : (Progress.ended outcome).Within told target) :
    s.Runs (MayResume run target) anyway (close run outcome) := by
  refine .bindSilent (silent_hook _) fun _ _ _ => .now ?_
  refine .bind (runs_spawn (.linger _)) fun _ _ _ => .device ?_
  refine .bindSilent (silent_unregister _) fun _ t _ => ?_
  have allowed : MayResume run target (.close run outcome) := .close known
  exact ⟨.deed (.close run outcome) .refl allowed, trivial⟩

theorem device_close (o : Outcome) (s : Site) :
    (close run o s).2.device = s.device.close run o := by
  have same := (Act.quiet_hook .configWillStop s).device
  rw [close, Act.bind_apply, ← same]
  rfl

theorem resume_apply {wait : RunWait} :
    resume run wait s =
      match proceed run wait s with
      | (.waiting next, t) => (some next, t)
      | (.ended o, t) => (none, (close run o t).2) := by
  rw [resume, Act.bind_apply]
  obtain ⟨x, t⟩ := proceed run wait s
  cases x <;> rfl

theorem runs_resume (wait : RunWait) :
    s.Runs (MayResume run (s.device.target? run wait))
      (fun next => ∀ w ∈ next, (Progress.waiting w).Within (s.device.isCancelled run)
        (s.device.target? run wait))
      (resume run wait) := by
  let target := s.device.target? run wait
  have proceeded : s.Runs (MayResume run target)
      (Progress.Within (s.device.isCancelled run) target) (proceed run wait) :=
    (runs_proceed run wait).mono (fun _ allowed => .proceed allowed) fun _ known => known
  refine .bind proceeded fun progress _ known => ?_
  cases progress with
  | waiting w => exact .pure (by simpa using known)
  | ended outcome => exact .bind (runs_close run known) fun _ _ _ => .pure (by simp)

theorem silent_registerAll (h : Handler) (kinds : List NotificationKind) :
    Silent (registerAll h kinds) := by
  induction kinds with
  | nil => exact .pure _
  | cons kind kinds ih =>
      refine (silent_register kind h).bind fun answer => ?_
      cases answer with
      | ok _ => exact ih.bind fun _ => .pure _
      | error e => exact ih.bind fun _ => .pure _

def Starts (d : Deed) : Prop := ∃ subscriptions, d = .enroll subscriptions

theorem runs_start : s.Runs Starts anyway start.run := by
  refine .liftDevice ?_
  dsimp only
  split
  · exact .pure trivial
  next idle =>
    refine .bindSilentLift silent_get fun here t first => ?_
    refine .bindSilentLift (silent_registerAll _ _) fun registered u second => ?_
    obtain ⟨subscriptions, failure⟩ := registered
    cases failure with
    | some e =>
        exact .bindSilentLift (silent_unregister _) fun _ _ _ => .pure trivial
    | none =>
        have same := first.device.trans second.device
        have goesOn : u.device.provisioning = false := by
          rw [same.provisioning]
          simpa using idle
        have enrolled : (Deed.enroll subscriptions).perform u = u.enroll subscriptions := by
          simp [Deed.perform, goesOn]
        have allowed : Starts (.enroll subscriptions) := ⟨_, rfl⟩
        have done := Site.Leads.deed (.enroll subscriptions) (.refl (s := u)) allowed
        rw [enrolled, Site.enroll, same.length] at done
        exact ⟨done, trivial⟩

end Provisioning
end ConnectedDevice
