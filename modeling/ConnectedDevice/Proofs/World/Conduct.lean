import ConnectedDevice.Proofs.Device.Operation
import ConnectedDevice.Proofs.World.Orderly

/-!
The conduct of systems among all events. In any event at most one system deals with what it shares
with the rest of the board, in the ways that the event tells. To the power daemon of a system that
has the board for itself an event is a number of moves of its clients, apart from the steps of the
daemon's own task.
-/

namespace ConnectedDevice

open Daemon (Stand Move)

def TaskStep.power? : TaskStep → Option PowerWait
  | .waits next => next.power?
  | .ends _ => none

def TaskStep.linger? : TaskStep → Option Nat
  | .waits next => next.linger?
  | .ends _ => none

namespace World

/-- Where the power tasks wait. -/
def powers (w : World) : List PowerWait := w.tasks.filterMap (·.2.power?)

def daemon (w : World) (d : Device) (stand : Stand) : Daemon :=
  ⟨d.power, 0, stand, d.store, w.board.flash⟩

/-- What happens to a world while power transitions are asked for, and the given system, if any,
deals as it may. -/
inductive Conduct (who : Option Nat) (may : Dealing → Prop) : List PowerState → World → World → Prop
  | refl (w : World) : Conduct who may [] w w
  | trans {asked more : List PowerState} {w u v : World} :
      Conduct who may asked w u → Conduct who may more u v → Conduct who may (asked ++ more) w v
  | enter {asked : List PowerState} {w : World} {i : Nat} {d : Device} {α : Type} {act : Act α} :
      w.devices[i]? = some d →
        Site.Conduct (fun x => who = some i ∧ may x) asked ⟨i, w.board, d, []⟩
          (act ⟨i, w.board, d, []⟩).2 → Conduct who may asked w (w.enter i d act).2
  | board {w : World} {b : Board} : w.board.KeepsFlash b → b.center = w.board.center →
      w.board.Upholds b → Conduct who may [] w { w with board := b }
  /-- the application registers, or removes what it likes -/
  | center {w : World} {c : Center Handler} : who = none →
      Center.Moves anyway (·.party? = none) w.board.center c → Conduct who may [] w (w.setCenter c)
  /-- a task goes to its next wait point -/
  | step {w : World} {k i : Nat} {t : Task} {next : TaskStep} : w.tasks[k]? = some (i, t) →
      (¬may .take → t.power? = none ∧ next.power? = none) → next.linger? = none →
        Conduct who may [] w (w.withStep k i t next)

variable {α : Type} {w u v : World} {i k : Nat} {d : Device} {t : Task} {who : Option Nat}
  {may : Dealing → Prop} {asked more : List PowerState} {wants : List PowerState → Prop}

theorem called_refuse {power : PowerRequests} {store : Store} (f : Nor) (refusing : Bool) :
    Daemon.Called [] (⟨power, 0, ·, store, f⟩) (⟨power, 0, ·, store, { f with refusing }⟩) := by
  refine ⟨[.flash { f with refusing }], by simp [Move.isClient], rfl, fun stand => ?_⟩
  have kept : Nor.region? { f with refusing } .config = f.region? .config := rfl
  simp [Daemon.run, Daemon.step, kept]

theorem powers_withStep {step : TaskStep} (task : w.tasks[k]? = some (i, t))
    (before : t.power? = none) (after : step.power? = none) :
    (w.withStep k i t step).powers = w.powers := by
  cases step with
  | waits next =>
      have after : next.power? = none := after
      simp [powers, withStep, filterMap_set task, filterMap_split task, before, after]
  | ends result => simp [powers, withStep, filterMap_eraseIdx, filterMap_split task, before]

namespace Conduct

theorem run {act : Act Unit} (deals : act.Deals fun x => who = some i ∧ may x) :
    w.Conduct who may [] (w.run i act) := by
  cases here : w.devices[i]? with
  | none => simpa [World.run, World.on, here] using refl w
  | some d => simpa [World.run, World.on, here] using enter here (deals _)

theorem on {act : Act α} {a : α} (deals : act.Deals fun x => who = some i ∧ may x)
    (done : w.on i act = some (a, u)) : w.Conduct who may [] u := by
  obtain ⟨d, here, entered⟩ := Option.map_eq_some_iff.mp done
  have conduct := enter here (deals ⟨i, w.board, d, []⟩)
  rwa [entered] at conduct

theorem on_asks {act : Act α} {a : α} (asks : act.Asks (fun x => who = some i ∧ may x) wants)
    (done : w.on i act = some (a, u)) : ∃ asked, wants asked ∧ w.Conduct who may asked u := by
  obtain ⟨d, here, entered⟩ := Option.map_eq_some_iff.mp done
  obtain ⟨asked, allowed, conduct⟩ := asks ⟨i, w.board, d, []⟩
  have conduct := enter here conduct
  rw [entered] at conduct
  exact ⟨asked, allowed, conduct⟩

theorem run_asks {act : Act Unit} (nothing : wants [])
    (asks : act.Asks (fun x => who = some i ∧ may x) wants) :
    ∃ asked, wants asked ∧ w.Conduct who may asked (w.run i act) := by
  cases done : w.on i act with
  | none => exact ⟨[], nothing, by simpa [World.run, done] using refl w⟩
  | some result => simpa [World.run, done] using on_asks asks done

/-- Unless a power task starts or goes on, all of them wait where they waited. -/
theorem powers (conduct : w.Conduct who may asked u) (take : ¬may .take) (serve : ¬may .serve) :
    u.powers = w.powers := by
  induction conduct with
  | refl w => rfl
  | trans _ _ first second => exact second.trans first
  | enter _ conduct =>
      have spawned := conduct.powers fun serves => serve serves.2
      rw [List.filterMap_nil] at spawned
      rw [World.powers, tasks_enter, List.filterMap_append, List.filterMap_map]
      exact (congrArg (World.powers _ ++ ·) spawned).trans (List.append_nil _)
  | board _ _ _ => rfl
  | center _ _ => rfl
  | step task other _ => exact powers_withStep task (other take).1 (other take).2

/-- If a system has the board for itself. -/
theorem alone (conduct : w.Conduct who may asked u) (take : ¬may .take) (here : w.devices = [d]) :
    ∃ e, u.devices = [e] ∧ Daemon.Called asked (w.daemon d) (u.daemon e) := by
  induction conduct generalizing d with
  | refl w => exact ⟨d, here, .refl _⟩
  | trans _ _ first second =>
      obtain ⟨e, there, called⟩ := first here
      obtain ⟨f, later, further⟩ := second there
      exact ⟨f, later, called.trans further⟩
  | enter known conduct =>
      rw [here, List.getElem?_singleton] at known
      obtain ⟨rfl, ⟨⟩⟩ := Option.ite_none_right_eq_some.mp known
      refine ⟨_, ?_, conduct.called fun takes => take takes.2⟩
      simp only [World.enter, here]
      rfl
  | @board w b flash _ _ =>
      obtain ⟨refusing, same⟩ := flash
      refine ⟨d, here, ?_⟩
      have refused : Daemon.Called [] (w.daemon d)
          (⟨d.power, 0, ·, d.store, { w.board.flash with refusing }⟩) :=
        called_refuse w.board.flash refusing
      rw [← same] at refused
      exact refused
  | center _ _ => exact ⟨d, here, .refl _⟩
  | @step w k i t next _ _ _ => cases next <;> exact ⟨d, here, .refl _⟩

end Conduct

/-! Notifications and tasks -/

theorem conduct_call (n : Notification) (h : Handler) :
    u.Conduct who may [] (call n u h) := by
  cases h with
  | application label =>
      refine .board ⟨u.board.flash.refusing, rfl⟩ rfl ⟨[.callback label n.kind], rfl, ?_⟩
      simp
  | system i => exact .run (Device.deals_react n)
  | provisioning i run => exact .run (Provisioning.deals_handle run n)

theorem conduct_dispatch (n : Notification) : w.Conduct who may [] (w.dispatch n) := by
  unfold World.dispatch
  generalize w.board.center.callbacks n.kind = handlers
  induction handlers generalizing w with
  | nil => exact .refl w
  | cons h handlers ih => exact (conduct_call n h).trans ih

end World

/-! Tasks -/

/-- Whatever the act finds, it gives such an answer. -/
def Act.Gives {α : Type} (answer : α → Prop) (act : Act α) : Prop := ∀ s : Site, answer (act s).1

namespace Act.Gives

variable {α β : Type} {answer : β → Prop}

theorem pure {b : β} (known : answer b) : Gives answer (pure b : Act β) := fun _ => known

theorem bind {x : Act α} {rest : α → Act β} (gives : ∀ a, (rest a).Gives answer) :
    (x >>= rest).Gives answer := fun s => gives (x s).1 (x s).2

end Act.Gives

namespace Device

open Act (Gives)

/-- Wherever the task goes on, it is neither the power task nor a timer. -/
structure Steady (step : TaskStep) : Prop where
  power : step.power? = none
  linger : step.linger? = none

theorem steady_checkMonitor : Gives Steady checkMonitor := by
  refine .bind fun d => .bind fun now => ?_
  dsimp only
  split
  · exact .pure ⟨rfl, rfl⟩
  · exact .bind fun _ => .bind fun _ => .pure ⟨rfl, rfl⟩

theorem steady_resumeMonitor (due : Option Nat) : Gives Steady (resumeMonitor due) := by
  have checked (d : Device) : Gives Steady
      (if d.stopped || d.monitor.period == 0 then return .ends (.ok ()) else checkMonitor) := by
    split
    · exact .pure ⟨rfl, rfl⟩
    · exact steady_checkMonitor
  refine .bind fun d => ?_
  cases due with
  | some due => exact checked d
  | none =>
      refine .bind fun armed => ?_
      cases armed with
      | error e => exact .pure ⟨rfl, rfl⟩
      | ok _ => exact checked d

theorem steady_resumeCheckpoint (wait : Option (Nat × Nat)) :
    Gives Steady (resumeCheckpoint wait) := by
  cases wait with
  | none =>
      refine .bind fun registered => ?_
      cases registered with
      | ok handle => exact .bind fun _ => .pure ⟨rfl, rfl⟩
      | error e => exact .pure ⟨rfl, rfl⟩
  | some wait =>
      refine .bind fun d => ?_
      dsimp only
      split
      · exact .pure ⟨rfl, rfl⟩
      · exact .bind fun _ => .bind fun _ => .pure ⟨rfl, rfl⟩

theorem steady_resumeProvisioning (run : Nat) (wait : RunWait) :
    Gives Steady (resumeProvisioning run wait) := by
  refine .bind fun next => ?_
  cases next <;> exact .pure ⟨rfl, rfl⟩

theorem steady_unlessStopped (act : Act Unit) : Gives Steady (unlessStopped act) := by
  refine .bind fun d => ?_
  dsimp only
  split
  · exact .bind fun _ => .pure ⟨rfl, rfl⟩
  · exact .pure ⟨rfl, rfl⟩

end Device

namespace World

variable {w : World} {i k : Nat} {d : Device} {t : Task} {wait : PowerWait}
  {asked : List PowerState}

/-- How a system deals when a task of it goes on. -/
inductive Deals (w : World) (i : Nat) (d : Device) : Task → Dealing → Prop
  | take (wait : PowerWait) : w.Deals i d (.power wait) .take
  | close {run : Nat} {wait : RunWait} {o : Outcome} :
      (Provisioning.proceed run wait ⟨i, w.board, d, []⟩).1 = .ended o →
        w.Deals i d (.provisioning run wait) (.close run o)
  | withdraw (due : Nat) : d.stopped = false → w.Deals i d (.linger due) .withdraw

theorem steady_resumeTask (other : t.power? = none) : Device.Steady (w.resumeTask i d t).2 := by
  cases t with
  | power wait => cases other
  | monitor due => exact Device.steady_resumeMonitor due _
  | checkpoint wait => exact Device.steady_resumeCheckpoint wait _
  | provisioning run wait => exact Device.steady_resumeProvisioning run wait _
  | linger due | softApJoin due params => exact Device.steady_unlessStopped _ _

theorem linger?_resumePower (wait : PowerWait) : (w.resumePower i d wait).2.linger? = none := by
  cases wait with
  | delaying due state => rfl
  | idle =>
      simp only [World.resumePower]
      split
      · rfl
      · split <;> rfl

theorem conduct_resumePower (here : w.devices[i]? = some d) (wait : PowerWait) :
    w.Conduct (some i) (w.Deals i d (.power wait)) [] (w.resumePower i d wait).1 := by
  cases wait with
  | delaying due state => exact .run (Device.deals_applyPower state)
  | idle =>
      have taken : w.Conduct (some i) (w.Deals i d (.power .idle)) []
          (w.enter i d Device.takePowerRequest).2 := .enter here (.take _ ⟨rfl, .take _⟩)
      simp only [World.resumePower]
      split
      · exact .refl w
      · split
        next v entered =>
          rw [entered] at taken
          exact taken
        next state v _ entered =>
          rw [entered] at taken
          exact taken.trans (conduct_dispatch _)

theorem conduct_resumeTask (here : w.devices[i]? = some d) :
    w.Conduct (some i) (w.Deals i d t) [] (w.resumeTask i d t).1 := by
  cases t with
  | power wait => exact conduct_resumePower here wait
  | monitor due => exact .enter here (Device.deals_resumeMonitor due _)
  | checkpoint wait => exact .enter here (Device.deals_resumeCheckpoint wait _)
  | provisioning run wait =>
      refine .enter here (Device.conduct_resumeProvisioning fun o ends => ?_)
      exact ⟨rfl, .close ends⟩
  | linger due => exact .enter here (Device.conduct_linger fun going => ⟨rfl, .withdraw due going⟩)
  | softApJoin due params =>
      exact .enter here (Device.deals_unlessStopped (Device.deals_leaveSoftAp params) _)

/-- The only power task takes a step. -/
theorem powers_withStep_of_power {step : TaskStep} (task : w.tasks[k]? = some (i, t))
    (power : t.power? = some wait) (only : w.powers = [wait]) :
    (w.withStep k i t step).powers = step.power?.toList := by
  obtain ⟨front, back⟩ := filterMap_only task (y := wait) power only
  cases step with
  | waits next => simp [powers, withStep, filterMap_set task, front, back, TaskStep.power?]
  | ends result => simp [powers, withStep, filterMap_eraseIdx, front, back, TaskStep.power?]

/-- A task keeps its position while it goes on. -/
theorem task_resumeTask (task : w.tasks[k]? = some (i, t)) (here : w.devices[i]? = some d) :
    (w.resumeTask i d t).1.tasks[k]? = some (i, t) := by
  let anything (_ : Nat) (_ : Deed) : Prop := True
  have path : w.Path anything (w.resumeTask i d t).1 :=
    (Path.refl.resumeTask here (fun _ => trivial) fun _ _ _ _ _ => trivial).1
  exact path.task task

theorem Conduct.mono {who : Option Nat} {may other : Dealing → Prop} {u : World}
    (conduct : w.Conduct who may asked u) (weaker : ∀ x, may x → other x) :
    w.Conduct who other asked u := by
  induction conduct with
  | refl w => exact .refl w
  | trans _ _ first second => exact first.trans second
  | enter here conduct =>
      exact .enter here (conduct.mono fun x allowed => ⟨allowed.1, weaker x allowed.2⟩)
  | board flash center upholds => exact .board flash center upholds
  | center nobody moves => exact .center nobody moves
  | step task others linger =>
      exact .step task (fun take => others fun allowed => take (weaker _ allowed)) linger

theorem conduct_resume (task : w.tasks[k]? = some (i, t)) (here : w.devices[i]? = some d) :
    w.Conduct (some i) (w.Deals i d t) [] (w.resume k) := by
  have later := task_resumeTask task here
  rw [resume_eq task here]
  refine (conduct_resumeTask here).trans ?_
  cases power : t.power? with
  | none =>
      have steady : Device.Steady (w.resumeTask i d t).2 := steady_resumeTask power
      exact .step later (fun _ => ⟨power, steady.power⟩) steady.linger
  | some wait =>
      cases t with
      | power wait =>
          exact .step later (fun other => absurd (.take wait) other) (linger?_resumePower wait)
      | _ => cases power

section

variable (w) (options : Options) (info : DeviceInfo) (hooked : Bool)

/-- The world with a further system that starts. -/
def booting : World :=
  let d := Device.make options info hooked
  ({ w with devices := w.devices ++ [d] }.enter w.devices.length d Device.boot.run).2

/-- A system that does not come up is stopped. -/
theorem conduct_bootOnly {who : Option Nat} {may : Dealing → Prop}
    (stops : who = some w.devices.length ∧ may .stop) :
    (w.booting options info hooked).Conduct who may [] (w.bootOnly options info hooked) := by
  unfold World.bootOnly World.booting
  dsimp only
  split
  next v entered =>
    rw [entered]
    exact .refl v
  next e v entered =>
    rw [entered]
    exact .run fun s => .stop s stops

end

end World

/-! Events -/

namespace Scene

open World

variable {p : Scene} {e : Event}

/-- The power task that the event takes a step further, with its system and where it waits. -/
def powers? (p : Scene) : Event → Option (Nat × PowerWait)
  | .resume k => (p.world.tasks[k]?).bind fun (i, t) => t.power?.map fun wait => (i, wait)
  | _ => none

theorem powers?_eq_some {i : Nat} {wait : PowerWait} : p.powers? e = some (i, wait) ↔
    ∃ k, e = .resume k ∧ p.world.tasks[k]? = some (i, .power wait) := by
  constructor
  · intro powers
    cases e with
    | resume k =>
        obtain ⟨⟨j, t⟩, task, powers⟩ := Option.bind_eq_some_iff.mp powers
        obtain ⟨wait, known, same⟩ := Option.map_eq_some_iff.mp powers
        cases same
        cases t with
        | power wait =>
            cases known
            exact ⟨k, rfl, task⟩
        | _ => cases known
    | _ => cases powers
  · rintro ⟨k, rfl, task⟩
    simp [powers?, task, Task.power?]

/-- The power transitions that the event asks for. -/
def Asks (p : Scene) (asked : List PowerState) : Event → Prop
  | .requestPower i s => asked = if (p.world.devices[i]?).isSome then [s] else []
  | .clickEasyLink _ | .holdEasyLink _ | .request .. | .finish _ => MayReset asked
  | _ => asked = []

/-- The system that may deal with what it shares in the event. -/
def party? (p : Scene) : Event → Option Nat
  | .boot .. => some p.world.devices.length
  | .stop i | .startRun i => some i
  | .resume k => (p.world.tasks[k]?).map (·.1)
  | _ => none

/-- How it deals there. -/
inductive Deals (p : Scene) : Event → Dealing → Prop
  | boot {options : Options} {info : DeviceInfo} {hooked : Bool} {x : Dealing} :
      x.Starts → p.Deals (.boot options info hooked) x
  | resume {k i : Nat} {t : Task} {d : Device} {x : Dealing} :
      p.world.tasks[k]? = some (i, t) → p.world.devices[i]? = some d → p.world.Deals i d t x →
        p.Deals (.resume k) x
  | enroll (i : Nat) : p.Deals (.startRun i) .enroll
  | retract (i : Nat) : p.Deals (.startRun i) .retract
  | stop (i : Nat) : p.Deals (.stop i) .stop

theorem not_deals_take (other : p.powers? e = none) : ¬p.Deals e .take := by
  intro deals
  cases deals with
  | boot starts => cases starts
  | resume task _ takes =>
      cases takes
      simp [powers?, task, Task.power?] at other

theorem not_deals_serve (old : ∀ options info hooked, e ≠ .boot options info hooked) :
    ¬p.Deals e .serve := by
  intro deals
  cases deals with
  | boot _ => exact old _ _ _ rfl
  | resume _ _ serves => cases serves

theorem conduct_step (manned : p.world.Manned) (permits : p.permits e) (powered : e ≠ .powerLoss)
    (old : ∀ options info hooked, e ≠ .boot options info hooked) :
    ∃ asked, p.Asks asked e ∧
      p.world.Conduct (p.party? e) (p.Deals e) asked (p.step e).world := by
  cases e with
  | notify n => exact ⟨[], rfl, conduct_dispatch n⟩
  | resume k =>
      refine ⟨[], rfl, ?_⟩
      cases task : p.world.tasks[k]? with
      | none => simpa [Scene.step, World.resume, task] using Conduct.refl p.world
      | some entry =>
          obtain ⟨i, t⟩ := entry
          have here := List.getElem?_eq_getElem (manned _ (List.mem_of_getElem? task))
          rw [party?, task]
          exact (conduct_resume task here).mono fun x => .resume task here
  | pass time => exact ⟨[], rfl, .board ⟨_, rfl⟩ rfl (.nothing rfl)⟩
  | boot options info hooked => exact absurd rfl (old options info hooked)
  | stop i => exact ⟨[], rfl, .run fun s => .stop s ⟨rfl, .stop i⟩⟩
  | powerLoss => exact absurd rfl powered
  | startRun i =>
      have started : Act.Deals (fun x => some i = some i ∧ p.Deals (.startRun i) x)
          Device.startProvisioning.run :=
        Device.deals_startProvisioning ⟨rfl, .enroll i⟩ ⟨rfl, .retract i⟩
      exact ⟨[], rfl, .run started.discard⟩
  | takeRun i => exact ⟨[], rfl, .run Device.deals_takeProvisioning.discard⟩
  | cancelRun i run => exact ⟨[], rfl, .run (Device.deals_cancelRun run)⟩
  | request i r =>
      have settings : Server.Resource.ofPath? r.path ≠ some .firmware := by
        simpa [permits] using (Bool.and_eq_true_iff.mp permits).2
      exact Conduct.run_asks .nothing (Server.asks_respond settings).discard
  | clickEasyLink i => exact Conduct.run_asks .nothing Device.asks_clickEasyLink.discard
  | holdEasyLink i => exact Conduct.run_asks .nothing Device.asks_holdEasyLink.discard
  | requestPower i state =>
      cases here : p.world.devices[i]? with
      | none =>
          refine ⟨[], by simp [Asks, here], ?_⟩
          simpa [Scene.step, World.run, World.on, here] using Conduct.refl p.world
      | some d =>
          refine ⟨[state], by simp [Asks, here], ?_⟩
          simpa [Scene.step, World.run, World.on, here] using
            Conduct.enter here (Act.conduct_requestPower state _)
  | markDirty i => exact ⟨[], rfl, .run Act.deals_markDirty⟩
  | commit i => exact ⟨[], rfl, .run Act.deals_commit.discard⟩
  | subscribe label kind =>
      refine ⟨[], rfl, ?_⟩
      simp only [Scene.step]
      split
      next id center registered => exact .center rfl (.ofRegister registered rfl)
      next => exact .refl p.world
  | unsubscribe kind id => exact ⟨[], rfl, .center rfl (.ofRemove kind id fun _ => trivial)⟩
  | hardware h => exact ⟨[], rfl, .board ⟨_, rfl⟩ rfl (.nothing rfl)⟩
  | refuse refusing => exact ⟨[], rfl, .board ⟨refusing, rfl⟩ rfl (.nothing rfl)⟩
  | openUpload i declared =>
      have opened {result world} (done : p.world.on i (Upload.start declared).run =
          some (result, world)) :
          p.world.Conduct none (p.Deals (.openUpload i declared)) [] world :=
        .on (Upload.deals_start declared) done
      refine ⟨[], rfl, ?_⟩
      simp only [Scene.step, Scene.openUpload]
      split
      next done => exact opened done
      next done => exact opened done
      next => exact .refl p.world
  | chunk k data =>
      refine ⟨[], rfl, ?_⟩
      cases running : p.running? k with
      | none => simpa [Scene.step, running] using Conduct.refl p.world
      | some x =>
          have received {result world} (done : p.world.on x.device (x.upload.receive data).run =
              some (result, world)) : p.world.Conduct none (p.Deals (.chunk k data)) [] world :=
            .on (x.upload.deals_receive data) done
          simp only [Scene.step, running, Option.map_some, Option.getD_some, Scene.chunk]
          split
          next => exact .refl p.world
          next done => exact received done
          next done => exact received done
  | finish k =>
      cases running : p.running? k with
      | none => exact ⟨[], .nothing, by simpa [Scene.step, running] using Conduct.refl p.world⟩
      | some x =>
          simp only [Scene.step, running, Option.map_some, Option.getD_some, Scene.finish]
          split
          next => exact ⟨[], .nothing, .refl p.world⟩
          next done => exact Conduct.on_asks x.upload.asks_finish done
  | breakOff k =>
      refine ⟨[], rfl, ?_⟩
      cases running : p.running? k with
      | none => simpa [Scene.step, running] using Conduct.refl p.world
      | some x =>
          simpa [Scene.step, running, Scene.setTransfer] using Conduct.refl p.world

theorem conduct_boot {options : Options} {info : DeviceInfo} {hooked : Bool} :
    Conduct (p.party? (.boot options info hooked)) (p.Deals (.boot options info hooked)) []
      { p.world with devices := p.world.devices ++ [.make options info hooked] }
      (p.step (.boot options info hooked)).world := by
  have booted : Conduct (p.party? (.boot options info hooked))
      (p.Deals (.boot options info hooked)) []
      { p.world with devices := p.world.devices ++ [.make options info hooked] }
      (p.world.booting options info hooked) := by
    refine .enter List.getElem?_concat_length (Device.conduct_boot ⟨rfl, rfl⟩ fun x starts _ => ?_)
    exact ⟨rfl, .boot starts⟩
  exact booted.trans (p.world.conduct_bootOnly options info hooked ⟨rfl, .boot .stop⟩)

end Scene
end ConnectedDevice
