import ConnectedDevice.Proofs.World.Systems

/-!
The runs of a system, one at a time. A run goes on exactly while a task of it waits, only the last
one can go on, and all runs discover as the options say.
-/

namespace ConnectedDevice

/-- What of the runs of a system matters for their order. -/
def Device.ledger (d : Device) : List (Option DiscoveryMethod × Option Outcome) :=
  d.runs.map fun r => (r.method, r.outcome)

/-- The runs that go on are the ones given. -/
structure Device.Orderly (d : Device) (going : List Nat) : Prop where
  method : ∀ {run : Nat} {method outcome}, d.ledger[run]? = some (method, outcome) →
    method = d.options.mode.discoveryMethod?
  outcome : ∀ {run : Nat} {method outcome}, d.ledger[run]? = some (method, outcome) →
    (outcome = none ↔ run ∈ going)
  last : ∀ run ∈ going, run + 1 = d.ledger.length
  count : going.length = d.provisioning.toNat

def Device.OrderlyWith (d : Device) (waits : List (Nat × RunWait)) : Prop :=
  d.Orderly (waits.map (·.1))

structure World.Orderly (w : World) : Prop where
  manned : w.Manned
  device : ∀ {i : Nat} {d : Device}, w.devices[i]? = some d → d.OrderlyWith (w.waits i)

namespace Device

variable {d later : Device} {going : List Nat}

theorem Orderly.congr (orderly : d.Orderly going) (options : later.options = d.options)
    (provisioning : later.provisioning = d.provisioning) (ledger : later.ledger = d.ledger) :
    later.Orderly going where
  method found := options ▸ orderly.method (ledger ▸ found)
  outcome found := orderly.outcome (ledger ▸ found)
  last run member := ledger ▸ orderly.last run member
  count := provisioning ▸ orderly.count

theorem ledger_modifyRun {f : Run → Run} (run : Nat)
    (keeps : ∀ r, (f r).method = r.method ∧ (f r).outcome = r.outcome) :
    (d.modifyRun run f).ledger = d.ledger := by
  refine List.ext_getElem? fun other => ?_
  simp only [ledger, modifyRun, List.getElem?_map, List.getElem?_modify]
  cases d.runs[other]? with
  | none => rfl
  | some r => by_cases same : run = other <;> simp [same, keeps r]

theorem Same.ledger (same : d.Same later) : later.ledger = d.ledger := by
  refine List.ext_getElem? fun run => ?_
  simp only [Device.ledger, List.getElem?_map]
  cases here : d.runs[run]? with
  | none =>
      have beyond : later.runs.length ≤ run := same.length ▸ List.getElem?_eq_none_iff.mp here
      rw [List.getElem?_eq_none beyond]
  | some r =>
      obtain ⟨l, there, kept⟩ := same.runs here
      simp [there, kept.method, kept.outcome]

theorem Orderly.same (orderly : d.Orderly going) (same : d.Same later) : later.Orderly going :=
  orderly.congr same.options same.provisioning same.ledger

/-- A further run can start only while none goes on. -/
theorem Orderly.enroll (orderly : d.Orderly going) (idle : d.provisioning = false)
    (subscriptions : List (NotificationKind × Nat)) :
    (d.enroll subscriptions).Orderly (going ++ [d.runs.length]) := by
  have nobody : going = [] := List.eq_nil_of_length_eq_zero (by simpa [idle] using orderly.count)
  subst nobody
  have length : d.ledger.length = d.runs.length := by simp [ledger]
  have ledger : (d.enroll subscriptions).ledger =
      d.ledger ++ [(d.options.mode.discoveryMethod?, none)] := by
    simp [ledger, Device.enroll]
  constructor
  · intro run method outcome found
    rw [ledger, List.getElem?_append] at found
    split at found
    · exact orderly.method found
    · rw [List.getElem?_singleton] at found
      split at found
      · cases found
        rfl
      · cases found
  · intro run method outcome found
    rw [ledger, List.getElem?_append] at found
    split at found
    next inside =>
      have other : run ≠ d.runs.length := by omega
      simpa [other] using orderly.outcome found
    next beyond =>
      rw [List.getElem?_singleton] at found
      split at found
      next first =>
        cases found
        have position : run = d.runs.length := by omega
        simp [position]
      next => cases found
  · intro run member
    have position : run = d.runs.length := by simpa using member
    simp [ledger, length, position]
  · rfl

/-- The run that went on ends. -/
theorem Orderly.close {run : Nat} (orderly : d.Orderly [run]) (o : Outcome) :
    (d.close run o).Orderly [] := by
  have ledger : (d.close run o).ledger = d.ledger.modify run fun r => (r.1, some o) := by
    refine List.ext_getElem? fun other => ?_
    simp only [ledger, Device.close, modifyRun, List.getElem?_map, List.getElem?_modify]
    cases d.runs[other]? with
    | none => rfl
    | some r => by_cases same : run = other <;> simp [same]
  constructor
  · intro other method outcome found
    rw [ledger, List.getElem?_modify] at found
    obtain ⟨entry, was, same⟩ := Option.map_eq_some_iff.mp found
    have known := orderly.method was
    split at same <;> cases same <;> exact known
  · intro other method outcome found
    rw [ledger, List.getElem?_modify] at found
    obtain ⟨entry, was, same⟩ := Option.map_eq_some_iff.mp found
    have known := orderly.outcome was
    split at same
    · cases same
      simp
    next apart =>
      cases same
      simpa [Ne.symm apart] using known
  · simp
  · rfl

end Device

/-! Deeds -/

/-- What is done apart from the steps of runs. -/
def Deed.IsForeign : Deed → Prop
  | .spawn t => t.run? = none
  | .close .. => False
  | _ => True

theorem Scene.Does.isForeign {p : Scene} {e : Event} {i : Nat} {d : Deed} (does : p.Does e i d)
    (other : ¬p.StepsRun e i) : d.IsForeign := by
  cases does with
  | handle may => cases may <;> trivial
  | goOn task _ _ => exact absurd ⟨_, _, goesOn?_eq_some.mpr ⟨_, rfl, task⟩⟩ other
  | boot boots =>
      cases boots with
      | spawn forgets => exact forgets
      | _ => trivial
  | answer may =>
      cases may with
      | softApJoin due params _ _ => rfl
      | _ => trivial
  | receive _ receives => cases receives <;> trivial
  | finish _ finishes => cases finishes <;> trivial
  | _ => trivial

namespace Device

theorem orderly_kept : Kept Deed.IsForeign OrderlyWith where
  same same orderly := Orderly.same orderly same
  deed {deed d later ws new} foreign leaves orderly := by
    cases leaves with
    | nothing => rwa [List.append_nil]
    | change _ | load _ _ =>
        rw [List.append_nil]
        exact Orderly.congr orderly rfl rfl rfl
    | spawn t =>
        have forgets : t.run? = none := foreign
        simpa [forgets] using orderly
    | enroll subscriptions idle =>
        simpa [OrderlyWith] using Orderly.enroll orderly idle subscriptions
    | session run f =>
        rw [List.append_nil]
        exact Orderly.congr orderly rfl rfl (ledger_modifyRun run fun _ => ⟨rfl, rfl⟩)
    | close run o => exact foreign.elim

end Device

/-! Steps of runs -/

namespace Provisioning

variable {run : Nat} {wait : RunWait} {s : Site}

theorem runs_spawned_resume :
    Task.runs (resume run wait s).2.spawned = Task.runs s.spawned := by
  have kept : Kept (MayResume run (s.device.target? run wait))
      (fun _ waits => waits = Task.runs s.spawned) := by
    refine ⟨fun _ => id, fun {_ d later _ new} may leaves known => ?_⟩
    have nobody : new = [] := by
      cases leaves with
      | spawn t =>
          cases may with
          | proceed may => cases may
          | linger due => rfl
      | enroll _ _ =>
          cases may with
          | proceed may => cases may
      | _ => rfl
    simp [nobody, known]
  exact kept.runs [] (runs_resume run wait) rfl

theorem orderly_proceed {going : List Nat} (orderly : s.device.Orderly going) :
    (proceed run wait s).2.device.Orderly going := by
  have kept : Kept (May run (s.device.target? run wait)) fun d _ => d.Orderly going := by
    refine ⟨fun same orderly => orderly.same same, fun may leaves orderly => ?_⟩
    cases leaves with
    | nothing => exact orderly
    | change _ | load _ _ => exact orderly.congr rfl rfl rfl
    | session run f => exact orderly.congr rfl rfl (Device.ledger_modifyRun run fun _ => ⟨rfl, rfl⟩)
    | _ => cases may
  exact kept.runs [] (runs_proceed run wait) orderly

theorem orderly_resume (orderly : s.device.Orderly [run]) :
    (resume run wait s).2.device.Orderly
      (((resume run wait s).1.map fun next => (run, next)).toList.map (·.1)) := by
  have proceeded : (proceed run wait s).2.device.Orderly [run] := orderly_proceed orderly
  rw [resume_apply]
  generalize proceed run wait s = result at proceeded ⊢
  obtain ⟨x, t⟩ := result
  cases x with
  | waiting next => exact proceeded
  | ended o =>
      simp only [device_close]
      exact proceeded.close o

end Provisioning

/-- Where a run waits next, as its task. -/
def TaskStep.ofRun (run : Nat) : Option RunWait → TaskStep
  | some next => .waits (.provisioning run next)
  | none => .ends (.ok ())

namespace World

variable {w : World} {k i run : Nat} {wait : RunWait} {d : Device}

/-- A run that waits is the only one of its system that does. -/
theorem Orderly.waits_eq (orderly : w.Orderly) (here : w.devices[i]? = some d)
    (waits : (run, wait) ∈ w.waits i) : w.waits i = [(run, wait)] := by
  have single : (w.waits i).length ≤ 1 := by
    have count := (orderly.device here).count
    have most := Bool.toNat_le d.provisioning
    rw [List.length_map] at count
    omega
  cases same : w.waits i with
  | nil => simp [same] at waits
  | cons first rest =>
      rw [same, List.length_cons] at single
      have nobody : rest = [] := List.eq_nil_of_length_eq_zero (by omega)
      subst nobody
      rw [same] at waits
      rw [List.mem_singleton.mp waits]

theorem mem_waits (task : w.tasks[k]? = some (i, .provisioning run wait)) :
    (run, wait) ∈ w.waits i :=
  List.mem_filterMap.mpr ⟨_, List.mem_of_getElem? task, by simp [Task.run?]⟩

theorem resume_eq_run (task : w.tasks[k]? = some (i, .provisioning run wait))
    (here : w.devices[i]? = some d) :
    w.resume k = (w.enter i d (Provisioning.resume run wait)).2.withStep k i
      (.provisioning run wait)
        (.ofRun run (Provisioning.resume run wait ⟨i, w.board, d, []⟩).1) := by
  rw [resume_eq task here]
  simp only [resumeTask, enter, Device.resumeProvisioning, Act.bind_apply]
  cases (Provisioning.resume run wait ⟨i, w.board, d, []⟩).1 <;> rfl

/-- What the step of a run leaves of its system. -/
theorem resume_run (task : w.tasks[k]? = some (i, .provisioning run wait))
    (here : w.devices[i]? = some d) :
    let stepped := Provisioning.resume run wait ⟨i, w.board, d, []⟩
    (w.resume k).devices[i]? = some stepped.2.device ∧ (w.resume k).board = stepped.2.board ∧
      ∀ next ∈ stepped.1, (w.resume k).tasks[k]? = some (i, .provisioning run next) := by
  intro stepped
  have inRange := (List.getElem?_eq_some_iff.mp task).1
  have entered : (w.enter i d (Provisioning.resume run wait)).2.devices[i]? =
      some stepped.2.device := devices_enter _ here
  rw [resume_eq_run task here]
  refine ⟨(congrArg (·[i]?) devices_withStep).trans entered, ?_, fun next waits => ?_⟩
  · cases stepped.1 <;> rfl
  · have waits : (Provisioning.resume run wait ⟨i, w.board, d, []⟩).1 = some next := waits
    rw [waits]
    exact List.getElem?_set_self (by rw [tasks_enter, List.length_append]; omega)

theorem Orderly.waits_resume (orderly : w.Orderly)
    (task : w.tasks[k]? = some (i, .provisioning run wait)) (here : w.devices[i]? = some d) :
    (w.resume k).waits i =
      ((Provisioning.resume run wait ⟨i, w.board, d, []⟩).1.map fun next =>
        (run, next)).toList := by
  have entered : (w.enter i d (Provisioning.resume run wait)).2.waits i = [(run, wait)] := by
    rw [waits_enter, Provisioning.runs_spawned_resume, orderly.waits_eq here (mem_waits task)]
    rfl
  have later : (w.enter i d (Provisioning.resume run wait)).2.tasks[k]? =
      some (i, .provisioning run wait) := by
    rw [tasks_enter, List.getElem?_append_left (List.getElem?_eq_some_iff.mp task).1, task]
  rw [resume_eq_run task here, waits_withStep later rfl entered]
  cases (Provisioning.resume run wait ⟨i, w.board, d, []⟩).1 <;> rfl

end World

/-! Events -/

namespace Scene

variable {p : Scene} {e : Event}

open World

theorem orderly_make (options : Options) (info : DeviceInfo) (hooked : Bool) :
    (Device.make options info hooked).Orderly [] where
  method found := by cases found
  outcome found := by cases found
  last := by simp
  count := rfl

theorem orderly_boot {options : Options} {info : DeviceInfo} {hooked : Bool} {i : Nat} {d : Device}
    (orderly : p.world.Orderly)
    (here : (p.step (.boot options info hooked)).world.devices[i]? = some d) :
    d.OrderlyWith ((p.step (.boot options info hooked)).world.waits i) := by
  let made : World :=
    { p.world with devices := p.world.devices ++ [.make options info hooked] }
  have foreign : Kept (p.Does (.boot options info hooked) i) Device.OrderlyWith :=
    Device.orderly_kept.mono fun _ does => does.isForeign fun ⟨_, _, goes⟩ => nomatch goes
  cases known : made.devices[i]? with
  | none =>
      have inside := (List.getElem?_eq_some_iff.mp here).1
      have beyond := List.getElem?_eq_none_iff.mp known
      have length : (p.step (.boot options info hooked)).world.devices.length =
          made.devices.length := path_boot.length
      omega
  | some first =>
      have start : first.OrderlyWith (made.waits i) := by
        rcases Nat.lt_or_ge i p.world.devices.length with inside | beyond
        · rw [List.getElem?_append_left inside] at known
          exact orderly.device known
        · rw [List.getElem?_append_right beyond] at known
          have nobody := orderly.manned.waits_eq_nil (List.getElem?_eq_none_iff.mpr beyond)
          rw [List.mem_singleton.mp (List.mem_of_getElem? known)]
          have same : made.waits i = [] := nobody
          rw [same]
          exact orderly_make options info hooked
      obtain ⟨later, found, known⟩ := Holds.path ⟨first, known, start⟩ foreign path_boot
      cases found.symm.trans here
      exact known

theorem orderly_step (orderly : p.world.Orderly) (permits : p.permits e) :
    (p.step e).world.Orderly where
  manned := manned_step permits orderly.manned
  device {i d} here := by
    by_cases boots : ∃ options info hooked, e = .boot options info hooked
    · obtain ⟨options, info, hooked, rfl⟩ := boots
      exact orderly_boot orderly here
    have old : ∀ options info hooked, e ≠ .boot options info hooked :=
      fun options info hooked same => boots ⟨options, info, hooked, same⟩
    by_cases powered : e = .powerLoss
    · subst powered
      cases here
    cases known : p.world.devices[i]? with
    | none =>
        have inside := (List.getElem?_eq_some_iff.mp here).1
        have beyond := List.getElem?_eq_none_iff.mp known
        rw [length_step permits orderly.manned powered old] at inside
        omega
    | some first =>
        -- A step of a run moves its wait point or ends it. No other event does either.
        by_cases steps : p.StepsRun e i
        · obtain ⟨run, wait, goes⟩ := steps
          obtain ⟨k, rfl, task⟩ := goesOn?_eq_some.mp goes
          have start := orderly.device known
          rw [Device.OrderlyWith, orderly.waits_eq known (mem_waits task)] at start
          cases (resume_run task known).1.symm.trans here
          rw [Device.OrderlyWith, Scene.step, orderly.waits_resume task known]
          exact Provisioning.orderly_resume start
        · have foreign := Device.orderly_kept.mono fun _ does => Does.isForeign does steps
          obtain ⟨later, found, known⟩ := holds_step permits powered steps foreign
            ⟨first, known, orderly.device known⟩
          cases found.symm.trans here
          exact known

theorem orderly_reachable {board : Board} {may : Scene → Event → Bool}
    (reachable : Reachable may (onBoard board) p) : p.world.Orderly := by
  refine reachable.invariant ?_ fun q e _ permits _ orderly => orderly_step orderly permits
  exact ⟨fun _ => nofun, nofun⟩

theorem orderly_run {q : Scene} {may : Scene → Event → Bool} {events : List Event}
    (orderly : p.world.Orderly) (ran : p.run may events = some q) : q.world.Orderly :=
  (reachable_run ran).invariant orderly fun _ _ _ permits _ orderly => orderly_step orderly permits

end Scene
end ConnectedDevice
