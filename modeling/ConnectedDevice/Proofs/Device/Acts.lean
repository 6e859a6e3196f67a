import ConnectedDevice.Proofs.Provisioning.Deeds

/-!
The deeds of a system apart from its provisioning runs: what it does when it is started, notified,
woken or operated by its buttons.
-/

namespace ConnectedDevice

open Act

/-- The run whose task it is, and where it waits. -/
def Task.run? : Task → Option (Nat × RunWait)
  | .provisioning run wait => some (run, wait)
  | _ => none

def Task.before? : Task → Option SystemConfig
  | .provisioning _ wait => wait.before?
  | _ => none

theorem Task.eq_of_run? {t : Task} {run : Nat} {wait : RunWait}
    (known : t.run? = some (run, wait)) :
    t = .provisioning run wait := by
  cases t with
  | provisioning run wait =>
      cases known
      rfl
  | _ => cases known

theorem Task.before?_of_run? {t : Task} (other : t.run? = none) : t.before? = none := by
  cases t with
  | provisioning run wait => cases other
  | _ => rfl

def TaskStep.run? : TaskStep → Option (Nat × RunWait)
  | .waits next => next.run?
  | .ends _ => none

namespace Device

variable {s : Site}

/-! Notifications -/

theorem runs_onParameters (ap : AccessPoint) :
    s.Runs ((Notification.wifiParametersChanged ap).May fun _ => False) anyway
      (onParameters ap) := by
  refine .device ?_
  cases loaded : s.device.store.loaded with
  | none => exact .pure trivial
  | some st =>
      dsimp only
      split
      · refine .bind (runs_setSettings (.learn ap) loaded (.brings (.parameters ap)))
          fun _ _ _ => ?_
        exact runs_tryCommit .commit
      · exact .pure trivial

theorem runs_onAddresses (ip : IpStatus) :
    s.Runs ((Notification.dhcpCompleted ip).May fun _ => False) anyway (onAddresses ip) := by
  refine .device ?_
  cases loaded : s.device.store.loaded with
  | none => exact .pure trivial
  | some st =>
      exact runs_setSettings (.observe (st.status.setAddresses ip)) loaded
        (.brings (.addresses ip _))

theorem runs_react (n : Notification) : s.Runs (n.May fun _ => False) anyway (react n) := by
  cases n with
  | dhcpCompleted ip => exact runs_onAddresses ip
  | wifiParametersChanged ap => exact runs_onParameters ap
  | wifiFatalError => exact .ofSilent (silent_tell _)
  | stackOverflow task => exact .ofSilent (silent_tell _)
  | _ => exact .pure trivial

/-! Tasks -/

theorem silent_applyPower (state : PowerState) : Silent (applyPower state) := by
  cases state with
  | normal => exact .pure _
  | softwareReset => exact silent_tell _
  | wlanPowerdown => exact silent_tell _
  | standby => exact (silent_tell _).bind fun _ => silent_tell _

theorem runs_takePowerRequest : s.Runs (· = .commit) anyway takePowerRequest := by
  refine .device ?_
  dsimp only
  refine .bindSilent (silent_modifyDevice fun _ => .ofKept rfl rfl rfl) fun _ _ _ => ?_
  split
  · exact .bind (runs_tryCommit rfl) fun _ _ _ => .pure trivial
  · exact .pure trivial

variable {may : Deed → Prop}

/-- The task is not that of a run, as far as it goes on. -/
def Forgets (step : TaskStep) : Prop := step.run? = none

theorem runs_checkMonitor : s.Runs may Forgets checkMonitor := by
  refine .device (.now ?_)
  split
  · exact .pure rfl
  · refine .bindSilent (fun t => ⟨.refl t.device, rfl, rfl⟩) fun _ _ _ => .now ?_
    exact .pure rfl

theorem runs_resumeMonitor (due : Option Nat) : s.Runs may Forgets (resumeMonitor due) := by
  have checked (d : Device) (t : Site) : t.Runs may Forgets
      (if d.stopped || d.monitor.period == 0 then return .ends (.ok ()) else checkMonitor) := by
    split
    · exact .pure rfl
    · exact runs_checkMonitor
  refine .device ?_
  cases due with
  | some due => exact checked _ _
  | none =>
      refine .bindSilent (silent_issue _) fun armed t _ => ?_
      cases armed with
      | error e => exact .pure rfl
      | ok _ => exact checked _ t

theorem silent_registerCheckpoint (name : String) (maxDelay : Nat) :
    Silent (registerCheckpoint name maxDelay).run := by
  refine .bindLift silent_device fun d => .bindLift silent_now fun now => ?_
  refine .bindOk (silent_ofExcept _) fun registered => ?_
  exact .bindLift (silent_modifyDevice fun _ => .ofKept rfl rfl rfl) fun _ => .pure _

theorem silent_updateCheckpoint (handle maxDelay : Nat) :
    Silent (updateCheckpoint handle maxDelay) := by
  refine silent_device.bind fun d => silent_now.bind fun now => ?_
  exact .bind (silent_modifyDevice fun _ => .ofKept rfl rfl rfl) fun _ => .pure _

theorem runs_resumeCheckpoint (wait : Option (Nat × Nat)) :
    s.Runs may Forgets (resumeCheckpoint wait) := by
  cases wait with
  | none =>
      refine .bindSilent (silent_registerCheckpoint _ _) fun registered _ _ => ?_
      cases registered with
      | ok handle => exact .now (.pure rfl)
      | error e => exact .pure rfl
  | some wait =>
      refine .device ?_
      dsimp only
      split
      · exact .pure rfl
      · exact .bindSilent (silent_updateCheckpoint _ _) fun _ _ _ => .now (.pure rfl)

theorem runs_unlessStopped {act : Act Unit} (silent : act.Silent) :
    s.Runs may Forgets (unlessStopped act) := by
  refine .device ?_
  dsimp only
  split
  · exact .bindSilent silent fun _ _ _ => .pure rfl
  · exact .pure rfl

theorem silent_leaveSoftAp (params : JoinParams) : Silent (leaveSoftAp params) :=
  (silent_tell _).bind fun _ => silent_connect _

/-- If the step waits, it is the run that waits, and it remembers no more than it may. -/
def Continues (run : Nat) (told : Bool) (target : Option SystemConfig) (step : TaskStep) : Prop :=
  ∀ next, step = .waits next → ∃ wait, next = .provisioning run wait ∧
    ∀ before ∈ wait.before?, told ∨ before ∈ target

theorem runs_resumeProvisioning (run : Nat) (wait : RunWait) :
    s.Runs (Provisioning.MayResume run (s.device.target? run wait))
      (Continues run (s.device.isCancelled run) (s.device.target? run wait))
      (resumeProvisioning run wait) := by
  refine .bind (Provisioning.runs_resume run wait) fun next _ known => ?_
  cases next with
  | none => exact .pure (by simp [Continues])
  | some w =>
      refine .pure fun next same => ?_
      cases same
      exact ⟨w, rfl, (known w rfl).2⟩

/-! Start and stop -/

inductive Boots : Deed → Prop
  | load : Boots .load
  | observe (status : RuntimeStatus) : Boots (.change (.observe status))
  | spawn {t : Task} : t.run? = none → Boots (.spawn t)
  | enroll (subscriptions : List (NotificationKind × Nat)) : Boots (.enroll subscriptions)

theorem silent_registerInOrder (h : Handler) (kinds : List NotificationKind) :
    Silent (registerInOrder h kinds) := by
  induction kinds with
  | nil => exact .pure _
  | cons kind kinds ih =>
      refine (silent_register kind h).bind fun answer => ?_
      cases answer with
      | ok _ => exact ih.bind fun _ => .pure _
      | error e => exact .pure _

theorem silent_registerHandlers : Silent registerHandlers.run := by
  refine .bindLift silent_get fun here => ?_
  refine .bindLift (silent_registerInOrder _ _) fun registered => ?_
  obtain ⟨subscriptions, failure⟩ := registered
  cases failure with
  | some e => exact .bindLift (silent_unregister _) fun _ => silent_throw _
  | none => exact .lift (silent_modifyDevice fun _ => .ofKept rfl rfl rfl)

theorem load_run (s : Site) : load.run s =
    match s.device.store.init s.board.flash s.device.options.appDataSize with
    | .ok store => (.ok (), { s with device := { s.device with store } })
    | .error e => (.error e, s) := by
  have read : load.run s = (Fallible.ofExcept
      (s.device.store.init s.board.flash s.device.options.appDataSize) >>= fun store =>
        liftM (modifyDevice fun d => { d with store })).run s := rfl
  rw [read, Fallible.bind_apply]
  cases s.device.store.init s.board.flash s.device.options.appDataSize <;> rfl

theorem isCancelled_perform {run : Nat} (deed : Deed) (told : s.device.isCancelled run) :
    (deed.perform s).device.isCancelled run := by
  cases deed with
  | load =>
      simp only [Deed.perform, load_run]
      split <;> exact told
  | erase | write offset data =>
      simp only [Deed.perform, onFlash_run]
      split <;> exact told
  | enroll subscriptions =>
      simp only [Deed.perform]
      split
      · exact told
      · exact s.device.isCancelled_append _ told
  | session other f => exact s.device.isCancelled_modifyRun (fun _ => id) told
  | close ended outcome => exact s.device.isCancelled_modifyRun (fun _ => id) told
  | _ => exact told

theorem runs_load : s.Runs Boots anyway load.run := ⟨.deed .load .refl .load, trivial⟩

theorem runs_startNetwork : s.Runs Boots anyway startNetwork.run := by
  refine .bindSilentLift silent_get fun here _ _ => ?_
  refine .bindSilentOk (silent_ofExcept _) (fun mac _ _ => ?_) fun _ => trivial
  refine .bindSilentOk (silent_ofExcept _) (fun rfVersion _ _ => ?_) fun _ => trivial
  refine .bindSilentLift (silent_modifyDevice fun _ => .ofKept rfl rfl rfl) fun _ t _ => ?_
  refine .bindSettings (fun st loaded => ?_) fun _ => trivial
  refine .bindLift (runs_setSettings (.observe _) loaded (.observe _)) fun _ _ _ => ?_
  exact .ofSilent (silent_issue _)

theorem silent_listen : Silent listen.run := by
  refine .bindLift silent_device fun d => .bindLift silent_get fun here => ?_
  cases here.board.hardware.bind d.options.port with
  | ok port => exact .lift (silent_modifyDevice fun _ => .ofKept rfl rfl rfl)
  | error text => exact silent_throw _

theorem runs_joinStored : s.Runs may anyway joinStored.run := by
  refine .bindSettings (fun st _ => ?_) fun _ => trivial
  refine .bindSilentLift (silent_connect _) fun _ _ _ => .liftDevice ?_
  split
  · exact .ofSilent (silent_announce _)
  · exact .pure trivial

theorem runs_firstRun :
    s.Runs Boots anyway
      (do
        let run ← Provisioning.start
        modifyDevice fun d => { d with bootRun := some run } : Fallible Unit).run := by
  have started : s.Runs Boots anyway Provisioning.start.run :=
    Provisioning.runs_start.mono (fun _ ⟨_, enrolled⟩ => enrolled ▸ .enroll _) fun _ => id
  refine .bindOk started (fun run _ _ => ?_) fun _ _ => trivial
  exact .ofSilent (.lift (silent_modifyDevice fun _ => .ofKept rfl rfl rfl))

/-- The end of a start: a run, or the stored network. -/
def bootConnecting (configured : ConfigState) : Fallible Unit := do
  if configured.needsProvisioning then
    let run ← Provisioning.start
    modifyDevice fun d => { d with bootRun := some run }
  else joinStored

def bootNetwork (configured : ConfigState) : Fallible Unit := do
  startNetwork
  if (← device).options.configServer then listen
  bootConnecting configured

/-- What a start does once its power task runs. -/
def bootFurther (configured : ConfigState) : Fallible Unit := do
  registerHandlers
  if (← device).options.monitor then
    spawn (.monitor none)
    spawn (.checkpoint none)
  bootNetwork configured

theorem boot_eq : boot = (do
    load
    let configured := (← settings).system.configured
    spawn (.power .idle)
    bootFurther configured) := rfl

theorem runs_bootConnecting (configured : ConfigState) :
    s.Runs Boots anyway (bootConnecting configured).run := by
  unfold bootConnecting
  split
  · exact runs_firstRun
  · exact runs_joinStored

theorem runs_bootNetwork (configured : ConfigState) :
    s.Runs Boots anyway (bootNetwork configured).run := by
  refine .bindOk runs_startNetwork (fun _ _ _ => .liftDevice ?_) fun _ _ => trivial
  dsimp only
  split
  · exact .bindSilentOk silent_listen (fun _ _ _ => runs_bootConnecting configured) fun _ => trivial
  · exact runs_bootConnecting configured

theorem runs_bootFurther (configured : ConfigState) :
    s.Runs Boots anyway (bootFurther configured).run := by
  have spawned {t : Site} (task : Task) (forgets : task.run? = none) :
      t.Runs Boots anyway (spawn task) := runs_spawn (.spawn forgets)
  refine .bindSilentOk silent_registerHandlers (fun _ _ _ => .liftDevice ?_) fun _ => trivial
  dsimp only
  split
  · refine .bindLift (spawned (.monitor none) rfl) fun _ _ _ => ?_
    exact .bindLift (spawned (.checkpoint none) rfl) fun _ _ _ => runs_bootNetwork configured
  · exact runs_bootNetwork configured

theorem runs_boot : s.Runs Boots anyway boot.run := by
  rw [boot_eq]
  refine .bindOk runs_load (fun _ _ _ => ?_) fun _ _ => trivial
  refine .bindSettings (fun st _ => ?_) fun _ => trivial
  exact .bindLift (runs_spawn (.spawn rfl)) fun _ _ _ => runs_bootFurther _

theorem runs_startProvisioning :
    s.Runs Provisioning.Starts anyway startProvisioning.run := by
  refine .liftDevice ?_
  dsimp only
  split
  · exact .pure trivial
  · exact Provisioning.runs_start

theorem silent_takeProvisioning : Silent takeProvisioning :=
  silent_device.bind fun _ => .bind (silent_modifyDevice fun _ => .ofKept rfl rfl rfl) fun _ =>
    .pure _

theorem silent_cancelRun (run : Nat) : Silent (cancelRun run) :=
  silent_modifyDevice fun _ => .modifyRun run fun _ => ⟨rfl, rfl, fun _ => rfl, rfl⟩

theorem silent_cancelTasks : Silent cancelTasks :=
  silent_modifyDevice fun d => { Device.Same.refl d with stopped := fun _ => rfl }

theorem silent_stop : Silent stop :=
  silent_device.bind fun _ => (silent_unregister _).bind fun _ =>
    silent_cancelTasks.bind fun _ => silent_modifyDevice fun _ => .ofKept rfl rfl rfl

/-! Buttons -/

theorem runs_clickEasyLink :
    s.Runs (· = .change .reconfigure) anyway clickEasyLink.run := by
  refine .bindSettings (fun st loaded => ?_) fun _ => trivial
  refine .bindLift (runs_setSettings .reconfigure loaded rfl) fun _ _ _ => ?_
  exact .ofSilent (.bindLift silent_markDirty fun _ => .lift (silent_requestPower _))

theorem runs_holdEasyLink :
    s.Runs (fun d => d = .change .restoreDefaults ∨ d = .commit) anyway holdEasyLink.run := by
  refine .bindSettings (fun st loaded => ?_) fun _ => trivial
  refine .bindLift (runs_setSettings .restoreDefaults loaded (.inl rfl)) fun _ _ _ => ?_
  refine .bindOk (runs_commit (.inr rfl)) (fun _ _ _ => ?_) fun _ _ => trivial
  exact .ofSilent (.lift (silent_requestPower _))

end Device
end ConnectedDevice
