import ConnectedDevice.Proofs.Power.Service
import ConnectedDevice.Proofs.Provisioning.Step

/-!
How long the station stays announced. A run that ends leaves a timer that takes the announcement
down; nothing else does. The timer knows nothing of later runs, and so a run keeps its announcement
exactly when no timer of an earlier one was pending.
-/

namespace ConnectedDevice

open Act

/-- Whether the station is announced after the command. -/
def Command.leaves (up : Bool) : Command → Bool
  | .announce .station _ => true
  | .withdraw .station => false
  | _ => up

namespace Board

def isAnnounced (b : Board) : Bool := b.issued.foldl Command.leaves false

theorem Upholds.isAnnounced {b later : Board} (upholds : b.Upholds later) (up : b.isAnnounced) :
    later.isAnnounced := by
  obtain ⟨said, same, never⟩ := upholds
  rw [Board.isAnnounced, same, List.foldl_append]
  have up : b.issued.foldl Command.leaves false = true := up
  rw [up]
  clear same
  induction said with
  | nil => rfl
  | cons c said ih =>
      rw [List.mem_cons, not_or] at never
      have still : Command.leaves true c = true := by
        unfold Command.leaves
        split
        · rfl
        · exact absurd rfl never.1
        · rfl
      rw [List.foldl_cons, still]
      exact ih never.2

end Board

/-- The run goes on, and has taken its first step. -/
def Provisioning.Progress.isStarted : Provisioning.Progress → Bool
  | .waiting wait => wait ≠ .start
  | .ended _ => false

theorem Provisioning.Progress.any_isStarted {x : Option Provisioning.Progress} :
    x.any isStarted ↔ ∃ next, x = some (.waiting next) ∧ next ≠ .start := by
  cases x with
  | none => simp
  | some x => cases x <;> simp [isStarted]

/-- A run announces the station first of all, and never takes that back. -/
theorem Provisioning.announced_resume {run : Nat} {s : Site}
    (configured : s.device.options.configServer) : (resume run .start s).2.board.isAnnounced := by
  let t := (announce .station s).2
  have up : t.board.isAnnounced := by
    have said : t.board.issued =
        s.board.issued ++ [.announce .station (s.device.announcement .station)] := rfl
    simp [Board.isAnnounced, said, Command.leaves]
  have begins : proceed run .start s = beginStored run t := by
    rw [proceed, begin_eq, device_bind, if_pos configured]
    rfl
  have stored : t.Conduct (· ≠ .withdraw) [] (beginStored run t).2 := deals_beginStored run t
  rw [resume_apply, begins]
  generalize beginStored run t = result at stored
  obtain ⟨x, u⟩ := result
  have never : ¬Dealing.withdraw ≠ .withdraw := fun other => other rfl
  have up : u.board.isAnnounced := (stored.upholds never).isAnnounced up
  cases x with
  | waiting next => exact up
  | ended o =>
      have closed : u.Conduct (· ≠ .withdraw) [] (close run o u).2 := deals_close run nofun u
      exact (closed.upholds never).isAnnounced up

namespace World

variable {w u : World} {i : Nat} {who : Option Nat} {may : Dealing → Prop}
  {asked : List PowerState}

/-- A timer of a run of the system that ended is pending. -/
def Lingers (w : World) (i : Nat) : Prop := ∃ due, (i, .linger due) ∈ w.tasks

def isStopped (w : World) (i : Nat) : Bool := (w.devices[i]?).any (·.stopped)

theorem Conduct.upholds (conduct : w.Conduct who may asked u) (withdraw : ¬may .withdraw) :
    w.board.Upholds u.board := by
  induction conduct with
  | refl w => exact .nothing rfl
  | trans _ _ first second => exact first.trans second
  | enter _ conduct => exact conduct.upholds fun withdraws => withdraw withdraws.2
  | board _ _ upholds => exact upholds
  | center _ _ => exact .nothing rfl
  | @step w k i t next _ _ _ => cases next <;> exact .nothing rfl

/-- Unless a run of the system ends, no timer of it starts. -/
theorem Conduct.lingers (conduct : w.Conduct who may asked u)
    (close : ∀ run o, who = some i → ¬may (.close run o)) (lingers : u.Lingers i) :
    w.Lingers i := by
  induction conduct with
  | refl w => exact lingers
  | trans _ _ first second => exact first (second lingers)
  | @enter _ w j d _ act here conduct =>
      obtain ⟨due, found⟩ := lingers
      rw [tasks_enter, List.mem_append] at found
      rcases found with found | found
      · exact ⟨due, found⟩
      · obtain ⟨t, spawned, same⟩ := List.mem_map.mp found
        cases same
        have nothing := conduct.lingers fun run o closes => close run o closes.1 closes.2
        have there : due ∈ ((act ⟨i, w.board, d, []⟩).2.spawned).filterMap (·.linger?) :=
          List.mem_filterMap.mpr ⟨_, spawned, rfl⟩
        rw [nothing] at there
        cases there
  | board _ _ _ => exact lingers
  | center _ _ => exact lingers
  | @step w k j t next _ _ other =>
      obtain ⟨due, found⟩ := lingers
      cases next with
      | waits next =>
          rcases List.mem_or_eq_of_mem_set found with found | same
          · exact ⟨due, found⟩
          · cases same
            cases other
      | ends result => exact ⟨due, List.mem_of_mem_eraseIdx found⟩

end World

theorem Device.stopped_kept : Kept (fun _ => True) fun d _ => d.stopped where
  same same known := same.stopped known
  deed _ leaves known := by cases leaves <;> exact known

namespace Scene

open World

variable {p q : Scene} {e : Event} {i run : Nat} {wait : RunWait}

/-- A system comes up only where none is. -/
def lone (p : Scene) : Event → Bool
  | .boot .. => p.world.devices.isEmpty
  | _ => true

/-- The event takes the announcement of the station down. -/
def Withdraws (p : Scene) (e : Event) : Prop :=
  .withdraw .station ∈ (p.step e).world.board.issued.drop p.world.board.issued.length

instance : Decidable (p.Withdraws e) := inferInstanceAs (Decidable (_ ∈ _))

/-- Whatever happens while the run goes on, the announcement of the station stays up. -/
def KeepsStation (p : Scene) (i run : Nat) : Prop :=
  ∀ {q : Scene} {e : Event} {wait : RunWait}, Reachable sole p q → q.permits e → sole q e →
    q.world.progress? i run = some (.waiting wait) → ¬q.Withdraws e

theorem ne_of_sole (alone : sole p e) :
    e ≠ .powerLoss ∧ ∀ options info hooked, e ≠ .boot options info hooked := by
  constructor
  · rintro rfl
    cases alone
  · rintro options info hooked rfl
    cases alone

theorem alone_reachable {board : Board} (reachable : Reachable lone (onBoard board) p) :
    p.world.devices.length ≤ 1 := by
  induction reachable with
  | start => exact Nat.zero_le _
  | @step q e before permits lonely alone =>
      by_cases boots : ∃ options info hooked, e = .boot options info hooked
      · obtain ⟨options, info, hooked, rfl⟩ := boots
        have nobody : q.world.devices = [] := List.isEmpty_iff.mp lonely
        rw [path_boot.length]
        simp [nobody]
      by_cases powered : e = .powerLoss
      · subst powered
        exact Nat.zero_le _
      rw [length_step permits (orderly_reachable before).manned powered
        fun options info hooked same => boots ⟨options, info, hooked, same⟩]
      exact alone

/-- What the end of a run leaves: no run waits. -/
theorem waits_of_closes {o : Outcome} (orderly : p.world.Orderly) (party : p.party? e = some i)
    (old : ∀ options info hooked, e ≠ .boot options info hooked)
    (closes : p.Deals e (.close run o)) : (p.step e).world.waits i = [] := by
  cases closes with
  | boot _ => exact absurd rfl (old _ _ _)
  | @resume k j t d x task here deals =>
      cases deals with
      | close ended =>
          rw [party?, task, Option.map_some, Option.some_inj] at party
          subst party
          rw [Scene.step, orderly.waits_resume task here, Provisioning.resume_apply]
          generalize Provisioning.proceed run _ _ = result at ended
          obtain ⟨x, t⟩ := result
          subst ended
          rfl

/-- As long as a run goes on, no timer is added to those of earlier ones. -/
theorem lingers_step (orderly : p.world.Orderly) (permits : p.permits e) (alone : sole p e)
    (after : (p.step e).world.progress? i run = some (.waiting wait))
    (lingers : (p.step e).world.Lingers i) : p.world.Lingers i := by
  obtain ⟨powered, old⟩ := ne_of_sole alone
  obtain ⟨asked, -, conduct⟩ := conduct_step orderly.manned permits powered old
  refine conduct.lingers (fun run' o party closes => ?_) lingers
  have gone := waits_of_closes orderly party old closes
  obtain ⟨_, _, waits⟩ := (orderly_step orderly permits).progress?_waiting.mp after
  cases gone.symm.trans waits

/-- Timers do nothing, as there are none or the system was stopped. -/
def Settled (p : Scene) (i : Nat) : Prop := p.world.isStopped i ∨ ¬p.world.Lingers i

theorem upholds_step (orderly : p.world.Orderly) (permits : p.permits e) (alone : sole p e)
    (single : p.world.devices.length ≤ 1) (settled : p.Settled i)
    (known : (p.world.devices[i]?).isSome) : p.world.board.Upholds (p.step e).world.board := by
  obtain ⟨powered, old⟩ := ne_of_sole alone
  obtain ⟨asked, -, conduct⟩ := conduct_step orderly.manned permits powered old
  refine conduct.upholds fun withdraws => ?_
  cases withdraws with
  | boot _ => exact old _ _ _ rfl
  | @resume k j t d x task here deals =>
      cases deals with
      | withdraw due going =>
          -- The timer belongs to the only system that there is.
          have inside : j < p.world.devices.length := orderly.manned _ (List.mem_of_getElem? task)
          have same : j = i := by
            obtain ⟨_, there⟩ := Option.isSome_iff_exists.mp known
            have inside' := (List.getElem?_eq_some_iff.mp there).1
            omega
          subst same
          rcases settled with stopped | never
          · simp [isStopped, here, going] at stopped
          · exact never ⟨due, List.mem_of_getElem? task⟩

/-- The run goes on without timers of earlier ones, or has ended. -/
structure Settles (p : Scene) (i run : Nat) (o : Options) : Prop where
  orderly : p.world.Orderly
  single : p.world.devices.length ≤ 1
  options : ∃ d, p.world.devices[i]? = some d ∧ d.options = o
  progress : ∃ x, p.world.progress? i run = some x
  settled : ∀ wait, p.world.progress? i run = some (.waiting wait) → p.Settled i

theorem Settles.step {o : Options} (settles : p.Settles i run o) (permits : p.permits e)
    (alone : sole p e) : (p.step e).Settles i run o := by
  obtain ⟨orderly, single, ⟨d, here, options⟩, ⟨x, known⟩, settled⟩ := settles
  obtain ⟨powered, old⟩ := ne_of_sole alone
  have later := orderly_step orderly permits
  have progress : ∃ y, (p.step e).world.progress? i run = some y := by
    rcases p.goesOn?_cases e i run with ⟨wait, goes⟩ | other
    · obtain ⟨-, y, -, -, -, -, progress⟩ := turn_step orderly permits goes
      exact ⟨y, progress⟩
    · exact ⟨x, progress?_step orderly permits powered known other⟩
  refine ⟨later, ?_, ?_, progress, fun wait after => ?_⟩
  · rwa [length_step permits orderly.manned powered old]
  · exact device_step permits powered ((Device.options_kept o).mono fun _ _ => trivial) here
      options
  · cases x with
    | ended o =>
        -- A run that ended does not wait again.
        have other (wait : RunWait) : p.goesOn? e ≠ some (i, run, wait) := fun goes => by
          cases (progress?_of_goesOn? orderly goes).symm.trans known
        cases (progress?_step orderly permits powered known other).symm.trans after
    | waiting before =>
        rcases settled before known with stopped | never
        · obtain ⟨e, there, stopped⟩ := device_step permits powered
            (Device.stopped_kept.mono fun _ _ => trivial) here
            (by simpa [isStopped, here] using stopped)
          exact .inl (by simpa [isStopped, there] using stopped)
        · exact .inr fun lingers => never (lingers_step orderly permits alone after lingers)

theorem Settles.reached {o : Options} (settles : p.Settles i run o)
    (reachable : Reachable sole p q) : q.Settles i run o := by
  induction reachable with
  | start => exact settles
  | step _ permits alone ih => exact ih.step permits alone

theorem Settles.upholds {o : Options} (settles : p.Settles i run o) (permits : p.permits e)
    (alone : sole p e) (waits : p.world.progress? i run = some (.waiting wait)) :
    p.world.board.Upholds (p.step e).world.board := by
  obtain ⟨d, here, -⟩ := settles.options
  exact upholds_step settles.orderly permits alone settles.single (settles.settled wait waits)
    (Option.isSome_of_mem here)

theorem Settles.keepsStation {o : Options} (settles : p.Settles i run o) :
    p.KeepsStation i run := by
  intro q e wait reachable permits alone waits withdraws
  obtain ⟨said, same, never⟩ := (settles.reached reachable).upholds permits alone waits
  rw [Withdraws, same, List.drop_left] at withdraws
  exact never withdraws

theorem board_linger {k due : Nat} {d : Device} (task : p.world.tasks[k]? = some (i, .linger due))
    (here : p.world.devices[i]? = some d) (going : d.stopped = false) :
    (p.step (.resume k)).world.board = (p.world.board.issue (.withdraw .station)).2 := by
  have done : p.world.resumeTask i d (.linger due) =
      (p.world.enter i d (Device.unlessStopped (tell (.withdraw .station)))).swap := rfl
  have acted : Device.unlessStopped (tell (.withdraw .station)) ⟨i, p.world.board, d, []⟩ =
      (.ends (.ok ()),
        ⟨i, (p.world.board.issue (.withdraw .station)).2, d, []⟩) := by
    rw [Device.unlessStopped, device_bind, going]
    rfl
  rw [Scene.step, resume_eq task here, done]
  simp only [World.enter, acted]
  rfl

/-- A timer that is pending can take the announcement down while the run goes on. -/
theorem KeepsStation.settled {d : Device} (keeps : p.KeepsStation i run)
    (here : p.world.devices[i]? = some d)
    (waits : p.world.progress? i run = some (.waiting wait)) : p.Settled i := by
  cases going : d.stopped with
  | true => exact .inl (by simp [isStopped, here, going])
  | false =>
      refine .inr fun ⟨due, found⟩ => ?_
      obtain ⟨k, task⟩ := List.mem_iff_getElem?.mp found
      let late := p.step (.pass (due - p.world.board.now))
      have passed : Reachable sole p late := .step .start rfl rfl
      have task : late.world.tasks[k]? = some (i, .linger due) := task
      have here : late.world.devices[i]? = some d := here
      have now : due ≤ late.world.board.now := by
        simp only [late, Scene.step, World.setNow]
        omega
      have permits : late.permits (.resume k) := by
        simp [Scene.permits, task, World.isReady, here, Task.isReady, Task.isDue, Task.due?, now]
      refine keeps (q := late) (e := .resume k) passed permits rfl waits ?_
      rw [Withdraws, board_linger task here going]
      simp [Board.issue]

/-- Once the run has announced the station, it stays so. -/
theorem Settles.announced {o : Options} {next : RunWait} (settles : p.Settles i run o)
    (configured : o.configServer) (starts : p.world.progress? i run = some (.waiting .start))
    (reachable : Reachable sole p q) (waits : q.world.progress? i run = some (.waiting next))
    (started : next ≠ .start) : q.world.board.isAnnounced := by
  induction reachable generalizing next with
  | start =>
      cases starts.symm.trans waits
      exact absurd rfl started
  | @step q e before permits alone ih =>
      have known := settles.reached before
      obtain ⟨powered, -⟩ := ne_of_sole alone
      have stays {wait : RunWait} (waited : q.world.progress? i run = some (.waiting wait))
          (further : wait ≠ .start) : (q.step e).world.board.isAnnounced :=
        (known.upholds permits alone waited).isAnnounced (ih waited further)
      rcases q.goesOn?_cases e i run with ⟨wait, goes⟩ | other
      · by_cases first : wait = .start
        · subst first
          obtain ⟨k, rfl, task⟩ := goesOn?_eq_some.mp goes
          obtain ⟨d, here, options⟩ := known.options
          have board := (resume_run task here).2.1
          rw [Scene.step, board]
          exact Provisioning.announced_resume (options ▸ configured)
        · exact stays (progress?_of_goesOn? known.orderly goes) first
      · obtain ⟨x, progress⟩ := known.progress
        have same := progress?_step known.orderly permits powered progress other
        cases same.symm.trans waits
        exact stays progress started

/-- While a run goes on, the announcement of the station stays up exactly if no timer of an earlier
run is pending, or the system was stopped. A run that starts so has the station announced from its
first step on.

That a stopped system keeps its announcement rests on its timers, which end without effect even when
they are due: see `Task.isCancelled`. -/
theorem keepsStation_iff {board : Board} {d : Device}
    (reachable : Reachable lone (onBoard board) p) (here : p.world.devices[i]? = some d)
    (waits : p.world.progress? i run = some (.waiting wait)) :
    (p.KeepsStation i run ↔ p.Settled i) ∧
      (wait = .start → d.options.configServer → p.Settled i → ∀ q next, Reachable sole p q →
        q.world.progress? i run = some (.waiting next) → next ≠ .start →
          q.world.board.isAnnounced) := by
  have settles (settled : p.Settled i) : p.Settles i run d.options :=
    ⟨orderly_reachable reachable, alone_reachable reachable, ⟨d, here, rfl⟩, ⟨_, waits⟩,
      fun _ _ => settled⟩
  refine ⟨⟨fun keeps => keeps.settled here waits, fun settled => ?_⟩, ?_⟩
  · exact (settles settled).keepsStation
  rintro rfl configured settled q next reached known started
  exact (settles settled).announced configured waits reached known started

set_option maxRecDepth 4000 in
theorem keepsStation_iff_firstRun :
    let p := sample.step (.boot sampleOptions DeviceInfo.product false)
    p.KeepsStation 0 0 ∧ (p.step (.resume 1)).world.board.isAnnounced := by
  intro p
  have booted : Reachable lone sample p := .step .start rfl rfl
  have here : (p.world.devices[0]?).any (·.options.configServer) := by decide +kernel
  have waits : p.world.progress? 0 0 = some (.waiting .start) := by decide +kernel
  have none : p.world.tasks.all (·.2.linger? = none) := by decide +kernel
  have permits : p.permits (.resume 1) := by decide +kernel
  have further : ((p.step (.resume 1)).world.progress? 0 0).any (·.isStarted) := by decide +kernel
  obtain ⟨d, here, configured⟩ := (Option.any_eq_true _ _).mp here
  have settled : p.Settled 0 := .inr fun ⟨due, found⟩ => by
    cases of_decide_eq_true (List.all_eq_true.mp none _ found)
  obtain ⟨next, goesOn, started⟩ := Provisioning.Progress.any_isStarted.mp further
  obtain ⟨keeps, announced⟩ := keepsStation_iff booted here waits
  have first : Reachable sole p (p.step (.resume 1)) := .step .start permits rfl
  exact ⟨keeps.mpr settled, announced rfl configured settled _ next first goesOn started⟩

/-- The first run fails at once, and the second one starts half a minute later. -/
def secondRun : List Event :=
  [.boot sampleOptions DeviceInfo.product false, .resume 1, .notify (.easyLinkCompleted none),
    .resume 1, .pass 30000, .startRun 0, .resume 2, .pass 30000]

set_option maxRecDepth 4000 in
theorem secondRun_loses_station : ¬∀ events p i run wait e, sample.run lone events = some p →
    p.world.progress? i run = some (.waiting wait) → p.permits e → sole p e → ¬p.Withdraws e := by
  intro always
  have ran : (sample.run lone secondRun).any fun p =>
      (p.world.progress? 0 1).any (·.isStarted) ∧ p.permits (.resume 1) ∧
        p.Withdraws (.resume 1) := by
    decide +kernel
  obtain ⟨p, ran, known⟩ := (Option.any_eq_true _ _).mp ran
  obtain ⟨started, permits, withdraws⟩ := of_decide_eq_true known
  obtain ⟨next, waits, -⟩ := Provisioning.Progress.any_isStarted.mp started
  exact always _ p 0 1 next _ ran waits permits rfl withdraws

end Scene
end ConnectedDevice
