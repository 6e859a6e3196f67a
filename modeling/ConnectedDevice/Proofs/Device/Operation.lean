import ConnectedDevice.Proofs.Flash.Nor
import ConnectedDevice.Proofs.Provisioning.Conduct
import ConnectedDevice.Proofs.Server.Deeds
import ConnectedDevice.Proofs.Upload.Deeds
import ConnectedDevice.World

/-!
The conduct of a system apart from its runs: what it does when it is started, notified, woken,
operated by its buttons or called over the network. Whatever asks for a restart does so as the last
thing.
-/

namespace ConnectedDevice

open Act

variable {may : Dealing → Prop}

namespace Device

/-! Notifications -/

theorem deals_onAddresses (ip : IpStatus) : Deals may (onAddresses ip) := by
  refine .bind deals_device fun d => ?_
  cases d.store.loaded with
  | none => exact .pure _
  | some st => exact deals_setSettings _

theorem deals_onParameters (ap : AccessPoint) : Deals may (onParameters ap) := by
  refine .bind deals_device fun d => ?_
  cases d.store.loaded with
  | none => exact .pure _
  | some st =>
      dsimp only
      split
      · exact .bind (deals_setSettings _) fun _ => deals_commit
      · exact .pure _

theorem deals_react (n : Notification) : Deals may (react n) := by
  cases n with
  | dhcpCompleted ip => exact deals_onAddresses ip
  | wifiParametersChanged ap => exact deals_onParameters ap
  | wifiFatalError => exact deals_tell nofun
  | stackOverflow task => exact deals_tell nofun
  | _ => exact .pure _

/-! Tasks -/

theorem deals_applyPower (state : PowerState) : Deals may (applyPower state) := by
  cases state with
  | normal => exact .pure _
  | softwareReset => exact deals_tell nofun
  | wlanPowerdown => exact deals_tell nofun
  | standby => exact .bind (deals_tell nofun) fun _ => deals_tell nofun

theorem deals_checkMonitor : Deals may checkMonitor := by
  refine .bind deals_device fun d => .bind deals_now fun now => ?_
  dsimp only
  split
  · exact .pure _
  · refine .bind (fun s => ?_) fun _ => .bind deals_now fun _ => .pure _
    exact .aside (.ofMoves [] (by simp) (fun _ => rfl) (.refl _))

theorem deals_resumeMonitor (due : Option Nat) : Deals may (resumeMonitor due) := by
  have checked (d : Device) : Deals may
      (if d.stopped || d.monitor.period == 0 then return .ends (.ok ()) else checkMonitor) := by
    split
    · exact .pure _
    · exact deals_checkMonitor
  refine .bind deals_device fun d => ?_
  cases due with
  | some due => exact checked d
  | none =>
      refine .bind (deals_issue nofun) fun armed => ?_
      cases armed with
      | error e => exact .pure _
      | ok _ => exact checked d

theorem deals_registerCheckpoint (name : String) (maxDelay : Nat) :
    Deals may (registerCheckpoint name maxDelay).run := by
  refine .bindLift deals_device fun d => .bindLift deals_now fun now => ?_
  refine .bindOk (deals_ofExcept _) fun registered => ?_
  exact .bindLift (deals_modifyDevice fun _ => .ofRuns rfl) fun _ => .pure _

theorem deals_updateCheckpoint (handle maxDelay : Nat) :
    Deals may (updateCheckpoint handle maxDelay) := by
  refine .bind deals_device fun d => .bind deals_now fun now => ?_
  exact .bind (deals_modifyDevice fun _ => .ofRuns rfl) fun _ => .pure _

theorem deals_resumeCheckpoint (wait : Option (Nat × Nat)) : Deals may (resumeCheckpoint wait) := by
  cases wait with
  | none =>
      refine .bind (deals_registerCheckpoint _ _) fun registered => ?_
      cases registered with
      | ok handle => exact .bind deals_now fun _ => .pure _
      | error e => exact .pure _
  | some wait =>
      refine .bind deals_device fun d => ?_
      dsimp only
      split
      · exact .pure _
      · exact .bind (deals_updateCheckpoint _ _) fun _ => .bind deals_now fun _ => .pure _

theorem deals_unlessStopped {act : Act Unit} (deals : act.Deals may) :
    Deals may (unlessStopped act) := by
  refine .bind deals_device fun d => ?_
  dsimp only
  split
  · exact .bind deals fun _ => .pure _
  · exact .pure _

/-- A timer of a system that was stopped does nothing. -/
theorem conduct_linger {s : Site} (withdraws : s.device.stopped = false → may .withdraw) :
    s.Conduct may [] (unlessStopped (tell (.withdraw .station)) s).2 := by
  rw [unlessStopped, device_bind]
  cases going : s.device.stopped with
  | true => exact .refl s
  | false => exact .withdraw s (withdraws going)

theorem deals_leaveSoftAp (params : JoinParams) : Deals may (leaveSoftAp params) :=
  .bind (deals_tell nofun) fun _ => deals_connect _

theorem conduct_resumeProvisioning {s : Site} {run : Nat} {wait : RunWait}
    (closes : ∀ o, (Provisioning.proceed run wait s).1 = .ended o → may (.close run o)) :
    s.Conduct may [] (resumeProvisioning run wait s).2 := by
  have resumed := Provisioning.conduct_resume run closes
  rw [resumeProvisioning, bind_apply]
  cases (Provisioning.resume run wait s).1 <;> exact resumed

/-! Start and stop -/

theorem registers_inOrder (h : Handler) (kinds : List NotificationKind) (s : Site) :
    s.Registers h (registerInOrder h kinds s).2 (registerInOrder h kinds s).1.1 := by
  induction kinds generalizing s with
  | nil => exact .none h s
  | cons kind kinds ih =>
      rw [registerInOrder, bind_apply]
      cases answer : ((register kind h).run s).1 with
      | ok key => exact (Site.Registers.of_register answer).append (ih _)
      | error e =>
          have same := Site.Registers.of_refusal answer
          rw [same]
          exact .none h s

/-- The handlers of a system are registered once. -/
theorem conduct_registerHandlers {s : Site} (attaches : may .attach) (retracts : may .retract)
    (fresh : s.device.Fresh) : s.Conduct may [] (registerHandlers.run s).2 := by
  have registers := registers_inOrder (.system s.index) kinds s
  rw [registerHandlers, Fallible.get_bind, Fallible.bind_lift, bind_apply]
  generalize registerInOrder (.system s.index) kinds s = registered at registers ⊢
  obtain ⟨⟨subscriptions, failure⟩, t⟩ := registered
  cases failure with
  | some e => exact .retract retracts registers
  | none => exact .attach attaches fresh registers

theorem deals_load : Deals may load.run := by
  intro s
  have read : load.run s = (Fallible.ofExcept
      (s.device.store.init s.board.flash s.device.options.appDataSize) >>= fun store =>
        liftM (modifyDevice fun d => { d with store })).run s := rfl
  rw [read, Fallible.bind_apply]
  cases known : s.device.store.init s.board.flash s.device.options.appDataSize with
  | error e => exact .refl s
  | ok store =>
      obtain ⟨r, rfl, -⟩ := Store.init_cases known
      exact deals_setSettings _ s

theorem deals_startNetwork : Deals may startNetwork.run := by
  refine .bindLift deals_get fun here => ?_
  refine .bindOk (deals_ofExcept _) fun mac => .bindOk (deals_ofExcept _) fun rfVersion => ?_
  refine .bindLift (deals_modifyDevice fun _ => .ofRuns rfl) fun _ => ?_
  refine .bindOk deals_settings fun st => .bindLift (deals_setSettings _) fun _ => ?_
  exact deals_issue nofun

theorem deals_listen : Deals may listen.run := by
  refine .bindLift deals_device fun d => .bindLift deals_get fun here => ?_
  cases here.board.hardware.bind d.options.port with
  | ok port => exact .lift (deals_modifyDevice fun _ => .ofRuns rfl)
  | error text => exact deals_throw _

theorem deals_joinStored : Deals may joinStored.run := by
  refine .bindOk deals_settings fun st => .bindLift (deals_connect _) fun _ => ?_
  refine .bindLift deals_device fun d => ?_
  split
  · exact .lift (deals_announce _)
  · exact .pure _

theorem deals_startProvisioning (enrolls : may .enroll) (retracts : may .retract) :
    Deals may startProvisioning.run := by
  refine .bindLift deals_device fun d => ?_
  dsimp only
  split
  · exact deals_throw _
  · exact fun s => Provisioning.enrolls_start retracts fun _ => enrolls

section

variable {s : Site} (retracts : may .retract)

include retracts

theorem enrolls_bootConnecting (configured : ConfigState) :
    s.Enrolls may (bootConnecting configured) := by
  unfold bootConnecting
  split
  · refine .andThen (Provisioning.enrolls_start retracts) fun run => ?_
    exact deals_modifyDevice fun _ => .ofRuns rfl
  · exact fun _ => deals_joinStored s

theorem enrolls_bootNetwork (configured : ConfigState) :
    s.Enrolls may (bootNetwork configured) := by
  refine .bindOk (deals_startNetwork s) fun _ => .bindLift (deals_device _) fun d => ?_
  dsimp only
  split
  · exact .bindOk (deals_listen _) fun _ => enrolls_bootConnecting retracts configured
  · exact enrolls_bootConnecting retracts configured

theorem enrolls_bootFurther (attaches : may .attach) (fresh : s.device.Fresh)
    (configured : ConfigState) : s.Enrolls may (bootFurther configured) := by
  refine .bindOk (conduct_registerHandlers attaches retracts fresh) fun _ => ?_
  refine .bindLift (deals_device _) fun d => ?_
  dsimp only
  split
  · refine .bindLift (deals_spawn rfl rfl _) fun _ => .bindLift (deals_spawn rfl rfl _) fun _ => ?_
    exact enrolls_bootNetwork retracts configured
  · exact enrolls_bootNetwork retracts configured

end

/-- A start that comes so far starts the power task, and no other one. -/
theorem boot_cases {s : Site} (fresh : s.device.Fresh) (attaches : may .attach)
    (retracts : may .retract) (enrolls : (boot.run s).1.isOk → may .enroll) :
    s.Conduct may [] (boot.run s).2 ∨
      ∃ t, s.Conduct may [] t ∧ (spawn (.power .idle) t).2.Conduct may [] (boot.run s).2 := by
  have loaded : s.Conduct (fun _ => False) [] (load.run s).2 := deals_load s
  have retains := (loaded.isAside fun _ => id).retains
  replace loaded : s.Conduct may [] (load.run s).2 := loaded.mono fun _ => False.elim
  rw [boot_eq, Fallible.bind_apply] at enrolls ⊢
  cases answer : (load.run s).1 with
  | error e => exact .inl loaded
  | ok _ =>
      rw [answer] at enrolls
      dsimp only at enrolls ⊢
      rw [Fallible.bind_apply] at enrolls ⊢
      cases found : (settings.run (load.run s).2).1 with
      | error e => exact .inl loaded
      | ok st =>
          rw [found] at enrolls
          have further := enrolls_bootFurther (s := (spawn (.power .idle) (load.run s).2).2)
            retracts attaches (retains.fresh fresh) st.system.configured enrolls
          exact .inr ⟨_, loaded, further⟩

/-- A start deals as it may, and starts a run only if it succeeds. -/
theorem conduct_boot {s : Site} (fresh : s.device.Fresh)
    (deals : ∀ x, x.Starts → (x = .enroll → (boot.run s).1.isOk) → may x) :
    s.Conduct may [] (boot.run s).2 := by
  have cases := boot_cases fresh (deals _ .attach nofun) (deals _ .retract nofun)
    fun ok => deals _ .enroll fun _ => ok
  rcases cases with ended | ⟨t, before, after⟩
  · exact ended
  · exact before.trans (.trans (.serve t (deals _ .serve nofun)) after)

theorem deals_takeProvisioning : Deals may takeProvisioning := by
  refine .bind deals_device fun d => ?_
  exact .bind (deals_modifyDevice fun _ => .ofRuns rfl) fun _ => .pure _

theorem deals_cancelRun (run : Nat) : Deals may (cancelRun run) :=
  deals_modifyDevice fun _ => Device.alike_modifyRun run fun _ => ⟨rfl, rfl⟩

end Device

/-! Restarts -/

/-- At most a restart is asked for. -/
def MayReset (asked : List PowerState) : Prop := asked = [] ∨ asked = [.softwareReset]

theorem MayReset.nothing : MayReset [] := .inl rfl

theorem Act.asks_restart : Asks may MayReset (requestPower .softwareReset) :=
  asks_requestPower (.inr rfl)

namespace Device

theorem asks_clickEasyLink : Asks may MayReset clickEasyLink.run := by
  refine .bindOk deals_settings .nothing fun st => .bindLift (deals_setSettings _) fun _ => ?_
  exact .bindLift deals_markDirty fun _ => asks_restart

theorem asks_holdEasyLink : Asks may MayReset holdEasyLink.run := by
  refine .bindOk deals_settings .nothing fun st => .bindLift (deals_setSettings _) fun _ => ?_
  exact .bindOk deals_commit .nothing fun _ => asks_restart

end Device

/-! Uploads -/

namespace Upload

theorem deals_erase : Deals may (onFlash (·.erase .otaTemp)).run := by
  refine deals_onFlash fun f g done => ?_
  obtain ⟨-, r, -, rfl⟩ := Nor.erase_eq_ok.mp done
  rfl

theorem deals_write (offset : Nat) (data : Bytes) :
    Deals may (onFlash (·.write .otaTemp offset data)).run := by
  refine deals_onFlash fun f g done => ?_
  obtain ⟨-, r, -, -, rfl⟩ := Nor.write_eq_ok.mp done
  rfl

theorem deals_start (declared : Option Nat) : Deals may (start declared).run := by
  refine .bindLift deals_get fun here => ?_
  cases here.board.flash.partition? .otaTemp with
  | none => exact deals_throw _
  | some target =>
      cases declared with
      | none => exact .pure _
      | some length =>
          dsimp only
          split
          · exact deals_throw _
          · exact .pure _

theorem deals_receive (u : Upload) (chunk : Bytes) : Deals may (u.receive chunk).run := by
  have written : Deals may (u.append chunk).run := .bindOk (deals_write _ _) fun _ => .pure _
  unfold receive
  split
  · exact .pure _
  · dsimp only
    split
    · exact deals_throw _
    · split
      · exact .bindOk deals_erase fun _ => written
      · exact written

theorem asks_finish (u : Upload) : Asks may MayReset u.finish.run := by
  refine .bindOk (deals_ofExcept _) .nothing fun table => ?_
  refine .bindOk deals_settings .nothing fun st => .bindLift (deals_setSettings _) fun _ => ?_
  refine .bindOk deals_commit .nothing fun _ => ?_
  exact .andThen asks_restart fun _ => .pure _

end Upload

/-! Requests -/

namespace Server

theorem asks_written (applied : Update.Applied) : Asks may MayReset (written applied).run := by
  have finished : Asks may MayReset (if applied.needReboot then
      requestPower .softwareReset else pure () : Fallible Unit).run := by
    split
    · exact asks_restart
    · exact (Deals.pure _).asks .nothing
  refine .bindOk deals_commit .nothing fun _ => ?_
  dsimp only
  split
  · exact .bindLift (deals_setIdentifier _) fun _ =>
      .bindLift (deals_reannounce _) fun _ => finished
  · exact finished

theorem asks_write (body : Bytes) : Asks may MayReset (write body).run := by
  refine .bindOk (deals_ofExcept _) .nothing fun update => ?_
  refine .bindOk deals_settings .nothing fun st => .bindLift (deals_setSettings _) fun _ => ?_
  exact asks_written (update.apply st.system).2

theorem deals_writtenSoftAp (system : SystemConfig) : Deals may (writtenSoftAp system).run :=
  .bindOk deals_commit fun _ => .bindLift deals_now fun _ => .lift (deals_spawn rfl rfl)

theorem deals_writeSoftAp (body : Bytes) : Deals may (writeSoftAp body).run := by
  refine .bindOk (deals_ofExcept _) fun update => .bindOk deals_settings fun st => ?_
  refine .bindLift (deals_setSettings _) fun _ => ?_
  have joined (system : SystemConfig) : Deals may (writtenSoftAp system).run :=
    deals_writtenSoftAp system
  dsimp only
  split
  · exact .bindLift (deals_setIdentifier _) fun _ => joined _
  · exact joined _

variable {wants : List PowerState → Prop}

theorem asks_conclude {α : Type} {act : Fallible α} (asks : Asks may wants act.run) :
    Asks may wants (conclude act) := by
  refine .andThen asks fun done => ?_
  cases done <;> exact .pure _

theorem asks_buffered {r : Request} {handler : Bytes → Fallible Unit} (nothing : wants [])
    (asks : ∀ body, Asks may wants (handler body).run) : Asks may wants (buffered r handler) := by
  unfold buffered
  cases r.buffer with
  | ok body => exact asks_conclude (asks body)
  | error response => exact (Deals.pure _).asks nothing

theorem deals_report : Deals may report.run :=
  .bindOk deals_settings fun _ => .bindLift deals_device fun _ => .pure _

theorem asks_respond {r : Request} (settings : Resource.ofPath? r.path ≠ some .firmware) :
    Asks may MayReset (respond r) := by
  unfold respond
  cases path : Resource.ofPath? r.path with
  | none => exact (Deals.pure _).asks .nothing
  | some resource =>
      dsimp only
      split
      · exact (Deals.pure _).asks .nothing
      · refine .andThen ?_ fun response => .pure _
        cases resource with
        | report =>
            refine .bind deals_report fun text => ?_
            cases text <;> exact (Deals.pure _).asks .nothing
        | settings => exact asks_buffered .nothing asks_write
        | softApSettings =>
            exact asks_buffered .nothing fun body => (deals_writeSoftAp body).asks .nothing
        | firmware => exact absurd path settings

end Server
end ConnectedDevice
