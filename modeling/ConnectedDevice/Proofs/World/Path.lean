import ConnectedDevice.Proofs.Device.Acts
import ConnectedDevice.Proofs.Server.Deeds
import ConnectedDevice.Proofs.Upload.Deeds
import ConnectedDevice.Proofs.World.Scene

/-!
What an event makes of a world: acts of its systems, one after the other, with deeds that depend on
the event, and changes of the board that keep what the flash holds. Statements about all events go
by these paths. Apart from that, an event takes a task to its next wait point, adds a system, or
cuts the power.
-/

namespace ConnectedDevice

/-- The flash keeps what it holds. It may refuse what it took before. -/
def Board.KeepsFlash (b later : Board) : Prop :=
  ∃ refusing, later.flash = { b.flash with refusing }

namespace World

/-- How a world comes about from another one, where the system `i` does what `may i` allows. -/
inductive Path (may : Nat → Deed → Prop) (w : World) : World → Prop
  | refl : Path may w w
  | enter {u : World} {i : Nat} {d : Device} {α : Type} {answer : α → Prop} {act : Act α} :
      Path may w u → u.devices[i]? = some d → Site.Runs ⟨i, u.board, d, []⟩ (may i) answer act →
        Path may w (u.enter i d act).2
  | board {u : World} {b : Board} :
      Path may w u → u.board.KeepsFlash b → Path may w { u with board := b }

/-- A system after an act of it. -/
theorem devices_enter {α : Type} {w : World} {i : Nat} {d : Device} (act : Act α)
    (here : w.devices[i]? = some d) :
    (w.enter i d act).2.devices[i]? = some (act ⟨i, w.board, d, []⟩).2.device :=
  List.getElem?_set_self (List.getElem?_eq_some_iff.mp here).1

theorem devices_run {w : World} {i : Nat} {d : Device} (act : Act Unit)
    (here : w.devices[i]? = some d) :
    (w.run i act).devices[i]? = some (act ⟨i, w.board, d, []⟩).2.device := by
  rw [run, on, here]
  exact devices_enter act here

/-- The task at a position after a step of it. -/
def withStep (w : World) (k i : Nat) (t : Task) : TaskStep → World
  | .waits next => { w with tasks := w.tasks.set k (i, next) }
  | .ends result =>
    { w with tasks := w.tasks.eraseIdx k, ended := w.ended ++ [⟨i, t, result⟩] }

theorem resume_eq {w : World} {k i : Nat} {t : Task} {d : Device}
    (task : w.tasks[k]? = some (i, t)) (here : w.devices[i]? = some d) :
    w.resume k = (w.resumeTask i d t).1.withStep k i t (w.resumeTask i d t).2 := by
  simp only [resume, task, here, withStep]
  split
  next stepped => simp [stepped]
  next stepped => simp [stepped]

/-- The systems that listen with a run to a kind of notifications. -/
def Listens (w : World) (kind : NotificationKind) (i run : Nat) : Prop :=
  .provisioning i run ∈ w.board.center.callbacks kind

instance {w : World} {kind : NotificationKind} {i run : Nat} : Decidable (w.Listens kind i run) :=
  inferInstanceAs (Decidable (_ ∈ _))

namespace Path

variable {may : Nat → Deed → Prop} {w u : World} {i : Nat} {d : Device} {α : Type}

theorem on {answer : α → Prop} {act : Act α} {a : α} {v : World} (path : Path may w u)
    (runs : ∀ s : Site, s.Runs (may i) answer act) (done : u.on i act = some (a, v)) :
    Path may w v := by
  obtain ⟨d, here, entered⟩ := Option.map_eq_some_iff.mp done
  have after := path.enter here (runs _)
  rwa [entered] at after

theorem run {act : Act Unit} (path : Path may w u)
    (runs : ∀ s : Site, s.Runs (may i) anyway act) : Path may w (u.run i act) := by
  cases done : u.on i act with
  | none => simpa [World.run, done] using path
  | some result => simpa [World.run, done] using path.on runs done

theorem run_silent {act : Act Unit} (path : Path may w u) (silent : act.Silent) :
    Path may w (u.run i act) := path.run fun _ => .ofSilent silent

theorem attempt {x : Fallible α} (path : Path may w u)
    (runs : ∀ s : Site, s.Runs (may i) anyway x.run) : Path may w (u.attempt i x) :=
  path.run fun s => ⟨(runs s).1, trivial⟩

/-! Notifications -/

theorem call {n : Notification} {h : Handler} {listens : Nat → Nat → Prop} (path : Path may w u)
    (listening : ∀ i run, h = .provisioning i run → listens i run)
    (allows : ∀ i d, n.May (listens i) d → may i d) : Path may w (World.call n u h) := by
  cases h with
  | application label => exact path.board ⟨u.board.flash.refusing, rfl⟩
  | system i =>
      refine path.run fun s => (Device.runs_react n).mono (fun d reacts => allows i d ?_)
        fun _ => id
      exact reacts.mono fun _ => False.elim
  | provisioning i run =>
      refine path.run fun s => (Provisioning.runs_handle run n).mono (fun d handles => ?_)
        fun _ => id
      refine allows i d (handles.mono fun other same => ?_)
      exact same ▸ listening i run rfl

theorem dispatch {n : Notification} (path : Path may w u)
    (allows : ∀ i d, n.May (u.Listens n.kind i) d → may i d) : Path may w (u.dispatch n) := by
  unfold World.dispatch
  have listening : ∀ h ∈ u.board.center.callbacks n.kind, ∀ i run,
      h = .provisioning i run → u.Listens n.kind i run := by
    rintro h found i run rfl
    exact found
  generalize u.Listens n.kind = listens at allows listening
  generalize u.board.center.callbacks n.kind = handlers at listening
  induction handlers generalizing u with
  | nil => exact path
  | cons h handlers ih =>
      refine ih (path.call (listening h (List.mem_cons_self ..)) allows) fun g found => ?_
      exact listening g (List.mem_cons_of_mem _ found)

/-! Tasks -/

theorem resumePower (path : Path may w u) (here : u.devices[i]? = some d)
    (commits : ∀ j, may j .commit) (wait : PowerWait) :
    Path may w (u.resumePower i d wait).1 ∧ (u.resumePower i d wait).2.run? = none := by
  cases wait with
  | delaying due state => exact ⟨path.run_silent (Device.silent_applyPower state), rfl⟩
  | idle =>
      simp only [World.resumePower]
      split
      · exact ⟨path, rfl⟩
      · have taken := path.enter here
          (Device.runs_takePowerRequest.mono (fun _ same => same ▸ commits i) fun _ => id)
        split
        next v entered =>
          rw [entered] at taken
          exact ⟨taken, rfl⟩
        next state v _ entered =>
          rw [entered] at taken
          refine ⟨taken.dispatch fun j deed may => ?_, rfl⟩
          cases may with
          | commit => exact commits j
          | brings brings => cases brings
          | session hears _ => cases hears

/-- All tasks but those of runs do silent acts, apart from the commit of the power task. -/
theorem resumeTask {t : Task} (path : Path may w u) (here : u.devices[i]? = some d)
    (commits : ∀ j, may j .commit) (goesOn : ∀ run wait deed, t = .provisioning run wait →
      Provisioning.MayResume run (d.target? run wait) deed → may i deed) :
    Path may w (u.resumeTask i d t).1 ∧
      (t.run? = none → (u.resumeTask i d t).2.run? = none) := by
  have silently {act : Act Unit} (silent : act.Silent) :
      Path may w (u.enter i d (Device.unlessStopped act)).2 ∧
        (t.run? = none → (u.enter i d (Device.unlessStopped act)).1.run? = none) := by
    have runs : Site.Runs ⟨i, u.board, d, []⟩ (may i) Device.Forgets (Device.unlessStopped act) :=
      Device.runs_unlessStopped silent
    exact ⟨path.enter here runs, fun _ => runs.2⟩
  cases t with
  | power wait =>
      obtain ⟨after, other⟩ := path.resumePower here commits wait
      exact ⟨after, fun _ => other⟩
  | monitor due =>
      have runs : Site.Runs ⟨i, u.board, d, []⟩ (may i) Device.Forgets (Device.resumeMonitor due) :=
        Device.runs_resumeMonitor due
      exact ⟨path.enter here runs, fun _ => runs.2⟩
  | checkpoint wait =>
      have runs : Site.Runs ⟨i, u.board, d, []⟩ (may i) Device.Forgets
          (Device.resumeCheckpoint wait) := Device.runs_resumeCheckpoint wait
      exact ⟨path.enter here runs, fun _ => runs.2⟩
  | provisioning run wait =>
      have runs := Device.runs_resumeProvisioning (s := ⟨i, u.board, d, []⟩) run wait
      refine ⟨path.enter here (runs.mono (fun deed => goesOn run wait deed rfl) fun _ => id), ?_⟩
      exact nofun
  | linger due =>
      exact silently (Act.silent_tell (.withdraw .station))
  | softApJoin due params => exact silently (Device.silent_leaveSoftAp params)

theorem bootOnly {options : Options} {info : DeviceInfo} {hooked : Bool}
    (boots : ∀ d, Device.Boots d → may w.devices.length d) :
    Path may { w with devices := w.devices ++ [.make options info hooked] }
      (w.bootOnly options info hooked) := by
  let made : World := { w with devices := w.devices ++ [.make options info hooked] }
  have here : made.devices[w.devices.length]? = some (.make options info hooked) :=
    List.getElem?_concat_length
  have runs := Device.runs_boot (s := ⟨w.devices.length, w.board, .make options info hooked, []⟩)
  have booted := (Path.refl (w := made)).enter here (runs.mono boots fun _ => id)
  unfold World.bootOnly
  dsimp only
  split
  next v entered =>
    rw [entered] at booted
    exact booted
  next e v entered =>
    rw [entered] at booted
    exact booted.run_silent Device.silent_stop

end Path
end World

/-! Events -/

namespace Scene

/-- What an event makes the system `i` do. -/
inductive Does (p : Scene) : Event → Nat → Deed → Prop
  | handle {n : Notification} {i : Nat} {d : Deed} :
      n.May (p.world.Listens n.kind i) d → p.Does (.notify n) i d
  | commitBefore (k i : Nat) : p.Does (.resume k) i .commit
  | goOn {k i run : Nat} {wait : RunWait} {system : Device} {d : Deed} :
      p.world.tasks[k]? = some (i, .provisioning run wait) → p.world.devices[i]? = some system →
        Provisioning.MayResume run (system.target? run wait) d → p.Does (.resume k) i d
  | boot {options : Options} {info : DeviceInfo} {hooked : Bool} {d : Deed} :
      Device.Boots d → p.Does (.boot options info hooked) p.world.devices.length d
  | enroll (i : Nat) (subscriptions : List (NotificationKind × Nat)) :
      p.Does (.startRun i) i (.enroll subscriptions)
  | answer {i : Nat} {r : Server.Request} {d : Deed} : r.May d → p.Does (.request i r) i d
  | reconfigure (i : Nat) : p.Does (.clickEasyLink i) i (.change .reconfigure)
  | restoreDefaults (i : Nat) : p.Does (.holdEasyLink i) i (.change .restoreDefaults)
  | commitDefaults (i : Nat) : p.Does (.holdEasyLink i) i .commit
  | commit (i : Nat) : p.Does (.commit i) i .commit
  | receive {k : Nat} {data : Bytes} {x : Transfer} {d : Deed} :
      x ∈ p.running? k → Upload.MayReceive d → p.Does (.chunk k data) x.device d
  | finish {k : Nat} {x : Transfer} {d : Deed} :
      x ∈ p.running? k → x.upload.MayFinish d → p.Does (.finish k) x.device d

variable {p : Scene}

open World

theorem path_step {e : Event} (permits : p.permits e) (other : ∀ k, e ≠ .resume k)
    (powered : e ≠ .powerLoss) (old : ∀ options info hooked, e ≠ .boot options info hooked) :
    p.world.Path (p.Does e) (p.step e).world := by
  cases e with
  | notify n => exact World.Path.refl.dispatch fun _ _ => .handle
  | resume k => exact absurd rfl (other k)
  | pass time => exact .board .refl ⟨_, rfl⟩
  | boot options info hooked => exact absurd rfl (old options info hooked)
  | stop i => exact World.Path.refl.run_silent Device.silent_stop
  | powerLoss => exact absurd rfl powered
  | startRun i =>
      refine World.Path.refl.attempt fun s => Device.runs_startProvisioning.mono ?_ fun _ => id
      rintro d ⟨subscriptions, rfl⟩
      exact .enroll i subscriptions
  | takeRun i => exact World.Path.refl.run_silent Device.silent_takeProvisioning.discard
  | cancelRun i run => exact World.Path.refl.run_silent (Device.silent_cancelRun run)
  | request i r =>
      have settings : Server.Resource.ofPath? r.path ≠ some .firmware := by
        simpa [permits] using (Bool.and_eq_true_iff.mp permits).2
      refine World.Path.refl.run fun s => ?_
      have runs := Server.runs_respond (s := s) r settings
      exact ⟨runs.1.mono fun _ => .answer, trivial⟩
  | clickEasyLink i =>
      refine World.Path.refl.attempt fun s => Device.runs_clickEasyLink.mono ?_ fun _ => id
      rintro d rfl
      exact .reconfigure i
  | holdEasyLink i =>
      refine World.Path.refl.attempt fun s => Device.runs_holdEasyLink.mono ?_ fun _ => id
      rintro d (rfl | rfl)
      · exact .restoreDefaults i
      · exact .commitDefaults i
  | requestPower i state => exact World.Path.refl.run_silent (Act.silent_requestPower state)
  | markDirty i => exact World.Path.refl.run_silent Act.silent_markDirty
  | commit i => exact World.Path.refl.attempt fun s => Act.runs_commit (.commit i)
  | subscribe label kind =>
      simp only [Scene.step]
      split
      · exact .board .refl ⟨_, rfl⟩
      · exact .refl
  | unsubscribe kind id => exact .board .refl ⟨_, rfl⟩
  | hardware h => exact .board .refl ⟨_, rfl⟩
  | refuse refusing => exact .board .refl ⟨refusing, rfl⟩
  | openUpload i declared =>
      have opened {result world} (done : p.world.on i (Upload.start declared).run =
          some (result, world)) : p.world.Path (p.Does (.openUpload i declared)) world :=
        World.Path.refl.on (fun _ => .ofSilent (Upload.silent_start declared)) done
      simp only [Scene.step, Scene.openUpload]
      split
      next done => exact opened done
      next done => exact opened done
      next => exact .refl
  | chunk k data =>
      cases running : p.running? k with
      | none =>
          simp only [Scene.step, running]
          exact .refl
      | some x =>
          have received {result world} (done : p.world.on x.device (x.upload.receive data).run =
              some (result, world)) : p.world.Path (p.Does (.chunk k data)) world :=
            World.Path.refl.on (fun s => (x.upload.runs_receive data).mono
              (fun _ => .receive running) fun _ => id) done
          simp only [Scene.step, running, Option.map_some, Option.getD_some, Scene.chunk]
          split
          next => exact .refl
          next done => exact received done
          next done => exact received done
  | finish k =>
      cases running : p.running? k with
      | none =>
          simp only [Scene.step, running]
          exact .refl
      | some x =>
          have finished {result world} (done : p.world.on x.device x.upload.finish.run =
              some (result, world)) : p.world.Path (p.Does (.finish k)) world :=
            World.Path.refl.on (fun s => x.upload.runs_finish.mono
              (fun _ => .finish running) fun _ => id) done
          simp only [Scene.step, running, Option.map_some, Option.getD_some, Scene.finish]
          split
          next => exact .refl
          next done => exact finished done
  | breakOff k =>
      cases running : p.running? k with
      | none =>
          simp only [Scene.step, running]
          exact .refl
      | some x =>
          simp only [Scene.step, running, Option.map_some, Option.getD_some, Scene.setTransfer]
          exact .refl

end Scene
end ConnectedDevice
