import ConnectedDevice.Proofs.Device.Conduct

/-!
The conduct of provisioning runs. A run that starts lists the registrations that it makes, and one
that ends takes them back; in between it calls nobody.
-/

namespace ConnectedDevice.Provisioning

open Act

variable {may : Dealing → Prop}

theorem registers_all (h : Handler) (kinds : List NotificationKind) (s : Site) :
    s.Registers h (registerAll h kinds s).2 (registerAll h kinds s).1.1 := by
  induction kinds generalizing s with
  | nil => exact .none h s
  | cons kind kinds ih =>
      rw [registerAll, bind_apply]
      cases answer : ((register kind h).run s).1 with
      | ok key => exact (Site.Registers.of_register answer).append (ih _)
      | error e =>
          have same := Site.Registers.of_refusal answer
          have rest := ih ((register kind h).run s).2
          rw [same] at rest ⊢
          exact rest

theorem start_run (s : Site) : start.run s =
    if s.device.provisioning then (.error .provisioningRuns, s)
    else
      let registered := registerAll (.provisioning s.index s.device.runs.length) kinds s
      match registered.1.2 with
      | some e => (.error e, (unregister registered.1.1 registered.2).2)
      | none => (.ok s.device.runs.length, registered.2.enroll registered.1.1) := by
  unfold start
  rw [Fallible.bind_lift, device_bind]
  split
  · rfl
  · dsimp only
    rw [Fallible.get_bind, Fallible.bind_lift, bind_apply]
    let h : Handler := .provisioning s.index s.device.runs.length
    have registers := registers_all h kinds s
    generalize registerAll h kinds s = result at registers
    obtain ⟨⟨keys, failure⟩, t⟩ := result
    obtain ⟨⟨center, rfl⟩, -⟩ := registers
    cases failure <;> rfl

theorem registerAll_kinds {h : Handler} {kinds : List NotificationKind} {s : Site}
    (all : (registerAll h kinds s).1.2 = none) :
    (registerAll h kinds s).1.1.map (·.1) = kinds := by
  induction kinds generalizing s with
  | nil => rfl
  | cons kind kinds ih =>
      rw [registerAll, bind_apply] at all ⊢
      rcases register_run kind h s with ⟨e, failed⟩ | ⟨id, center, -, registered⟩
      · rw [failed] at all
        obtain ⟨-, impossible⟩ := Option.or_eq_none_iff.mp all
        cases impossible
      · rw [registered] at all ⊢
        exact congrArg (kind :: ·) (ih all)

theorem enrolls_start {s : Site} (retracts : may .retract) : s.Enrolls may start := by
  intro enrolls
  rw [start_run] at enrolls ⊢
  split
  · exact .refl s
  next idle =>
    have registers := registers_all (.provisioning s.index s.device.runs.length) kinds s
    dsimp only
    split
    · exact .retract retracts registers
    next all =>
      have idle : s.device.provisioning = false := Bool.not_eq_true _ |>.mp idle
      have enrolls : may .enroll := enrolls (by simp [idle, all, Except.isOk, Except.toBool])
      exact .enroll enrolls idle (registerAll_kinds all) registers

/-! Handlers -/

section

variable (run : Nat) (before : SystemConfig)

theorem deals_finish (success : Bool) : Deals may (finish run success) := deals_modifySession run _

theorem deals_acceptsAuth (auth : Bytes) : Deals may (acceptsAuth auth) := by
  refine .bind deals_device fun d => ?_
  cases d.hooked with
  | false => exact .pure _
  | true =>
      refine .bind (deals_issue nofun) fun answer => ?_
      cases answer <;> exact .pure _

theorem deals_onStatus (event : WifiEvent) : Deals may (onStatus run event) := by
  cases event with
  | stationUp =>
      refine .bind (deals_reannounce _) fun _ => .bind deals_device fun d => ?_
      cases d.store.loaded with
      | none => exact deals_modifySession run _
      | some st =>
          exact .bind (deals_setSettings _) fun _ => .bind deals_commit fun _ =>
            deals_modifySession run _
  | apDown => exact deals_tell nofun
  | stationDown => exact .pure _
  | apUp => exact .pure _

theorem deals_onCredentials (received : Option Credentials) :
    Deals may (onCredentials run received) := by
  refine .bind deals_device fun d => ?_
  split
  · exact .pure _
  · split
    · refine .bind (deals_setSettings _) fun _ => ?_
      split
      · exact deals_finish run true
      · exact .pure _
    · exact deals_finish run false

theorem deals_onExtraData (data : Bytes) : Deals may (onExtraData run data) := by
  refine .bind deals_device fun d => ?_
  split
  · exact .pure _
  · cases ExtraData.parse data with
    | error e => exact deals_finish run false
    | ok extra =>
        refine .bind (deals_acceptsAuth _) fun accepted => ?_
        cases accepted with
        | false => exact deals_finish run false
        | true =>
            refine .bind (deals_setIdentifier _) fun _ => .bind deals_device fun d => ?_
            cases d.store.loaded with
            | none => exact deals_finish run false
            | some st => exact .bind (deals_setSettings _) fun _ => deals_finish run true

theorem deals_handle (n : Notification) : Deals may (handle run n) := by
  cases n with
  | wifiStatusChanged event => exact deals_onStatus run event
  | easyLinkCompleted received => exact deals_onCredentials run received
  | easyLinkExtraData data => exact deals_onExtraData run data
  | _ => exact .pure _

/-! Wait points -/

theorem deals_rollBack : Deals may (rollBack before) := by
  refine .bind deals_device fun d => ?_
  cases d.store.loaded with
  | none => exact .pure _
  | some st =>
      dsimp only
      split
      · exact .bind (deals_setSettings _) fun _ => .bind deals_commit fun _ =>
          .bind (deals_tell nofun) fun _ => .pure _
      · exact .bind (deals_setSettings _) fun _ => .bind deals_commit fun _ =>
          .bind (deals_connect _) fun _ => .pure _

theorem deals_openSoftAp : Deals may (openSoftAp run before) := by
  refine .bind (deals_hook _) fun _ => .bind (deals_modifySession run _) fun _ => ?_
  refine .bind deals_device fun d => .bind (deals_issue nofun) fun answer => ?_
  cases answer with
  | error e => exact deals_rollBack before
  | ok _ => exact .bind (deals_announce _) fun _ => .pure _

theorem deals_fail : Deals may (fail run before) := by
  refine .bind deals_device fun d => ?_
  split
  · exact deals_openSoftAp run before
  · exact deals_rollBack before

theorem deals_attempt (number : Nat) (method : DiscoveryMethod) :
    Deals may (attempt run number method before) := by
  refine .bind deals_device fun d => ?_
  dsimp only
  split
  · exact deals_fail run before
  · refine .bind (deals_modifySession run _) fun _ => .bind (deals_issue nofun) fun answer => ?_
    cases answer with
    | ok _ => exact .pure _
    | error e => exact .bind (deals_finish run false) fun _ => .pure _

theorem deals_beginWith (st : Settings) : Deals may (beginWith run st) := by
  cases bypass : st.system.bypass with
  | no =>
      simp only [beginWith, bypass]
      refine .bind (deals_hook _) fun _ => .bind deals_device fun d => ?_
      split
      · exact deals_attempt run _ 1 _
      · exact deals_openSoftAp run _
  | join =>
      simp only [beginWith, bypass]
      exact .bind (deals_setSettings _) fun _ => .bind deals_commit fun _ =>
        .bind (deals_connect _) fun _ => .pure _
  | softAp =>
      simp only [beginWith, bypass]
      exact .bind (deals_setSettings _) fun _ => .bind deals_commit fun _ =>
        .bind (deals_hook _) fun _ => deals_openSoftAp run _

theorem deals_beginStored : Deals may (beginStored run) := by
  refine .bind deals_device fun d => ?_
  cases d.store.loaded with
  | none => exact .pure _
  | some st => exact deals_beginWith run st

theorem deals_begin : Deals may (begin run) := by
  rw [begin_eq]
  refine .bind deals_device fun d => ?_
  split
  · exact .bind (deals_announce _) fun _ => deals_beginStored run
  · exact deals_beginStored run

theorem deals_wake : Deals may (wake run) :=
  .bind (deals_modifySession run _) fun _ => .bind deals_device fun _ => .pure _

theorem deals_join (number : Nat) : Deals may (join run number before) := by
  refine .bind (deals_hook _) fun _ => .bind deals_device fun d => ?_
  cases d.store.loaded with
  | none => exact deals_fail run before
  | some st =>
      refine .bind (deals_setSettings _) fun _ => .bind deals_commit fun _ => ?_
      refine .bind (deals_connect _) fun _ => .bind deals_device fun d => ?_
      split
      · exact .pure _
      · exact .bind deals_now fun _ => .pure _

theorem deals_afterDiscovery (number : Nat) : Deals may (afterDiscovery run number before) := by
  refine .bind deals_device fun d => ?_
  split
  · exact .bind (deals_tell nofun) fun _ => .pure _
  · refine .bind (deals_wake run) fun session => ?_
    cases session.stage with
    | pending => exact .pure _
    | failed => exact deals_fail run before
    | succeeded => exact deals_join run before number

theorem deals_afterJoin (number due : Nat) : Deals may (afterJoin run number due before) := by
  refine .bind deals_device fun d => ?_
  split
  · exact .pure _
  · refine .bind (deals_wake run) fun session => ?_
    split
    · exact .pure _
    · refine .bind deals_now fun now => ?_
      split
      · exact .pure _
      · refine .bind deals_device fun d => ?_
        split
        · exact deals_attempt run before (number + 1) _
        · exact deals_fail run before

theorem deals_afterSoftAp : Deals may (afterSoftAp run) := by
  refine .bind deals_device fun d => ?_
  split
  · exact .pure _
  · refine .bind (deals_wake run) fun session => ?_
    split <;> exact .pure _

theorem deals_proceed (wait : RunWait) : Deals may (proceed run wait) := by
  cases wait with
  | start => exact deals_begin run
  | discovering number before => exact deals_afterDiscovery run before number
  | joining number due before => exact deals_afterJoin run before number due
  | softAp => exact deals_afterSoftAp run

/-! Ends -/

theorem deals_close {o : Outcome} (closes : may (.close run o)) : Deals may (close run o) := by
  refine .bind (deals_hook _) fun _ => .bind deals_now fun now => fun s => ?_
  exact .close s (now + limits.lingerTime) closes

/-- The step of a run ends it as the run says. -/
theorem conduct_resume {s : Site} {wait : RunWait}
    (closes : ∀ o, (proceed run wait s).1 = .ended o → may (.close run o)) :
    s.Conduct may [] (resume run wait s).2 := by
  have proceeds : s.Conduct may [] (proceed run wait s).2 := deals_proceed run wait s
  rw [resume_apply]
  generalize proceed run wait s = result at closes proceeds ⊢
  obtain ⟨x, t⟩ := result
  cases x with
  | waiting next => exact proceeds
  | ended o => exact proceeds.trans (deals_close run (closes o rfl) t)

end
end ConnectedDevice.Provisioning
