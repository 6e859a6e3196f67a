import ConnectedDevice.Proofs.Power.Requests
import ConnectedDevice.Proofs.World.Tidy

/-!
The power daemon of a running system. Where a system has the board for itself, all that happens
until the power fails is a sequence of moves of the daemon and of its surroundings. The system asks
for power transitions in single acts, and takes them in single acts; that is one of the orders in
which the moves can come, and what holds of all of them holds of it.
-/

namespace ConnectedDevice

open Daemon (Stand Move)
open PowerState (normal)

namespace Daemon

variable {d e : Daemon} {moves more : List Move}

theorem executions_append (ran : d.run moves = some e) :
    d.executions (moves ++ more) = d.executions moves ++ e.executions more := by
  induction moves generalizing d with
  | nil =>
      cases ran
      rfl
  | cons m moves ih =>
      obtain ⟨next, stepped, ran⟩ := run_cons ran
      simp only [List.cons_append, executions, stepped, ih ran, List.append_assoc]

theorem executions_eq_nil (never : .execute ∉ moves) : d.executions moves = [] := by
  induction moves generalizing d with
  | nil => rfl
  | cons m moves ih =>
      rw [List.mem_cons, not_or] at never
      obtain ⟨first, never⟩ := never
      have other : d.executes? m = none := by
        cases m with
        | execute => exact absurd rfl first
        | _ => rfl
      rw [executions, other]
      cases d.step m with
      | none => rfl
      | some next => exact ih never

theorem execute_notMem (clients : ∀ m ∈ moves, m.isClient) : .execute ∉ moves :=
  fun found => by cases clients _ found

/-- One turn of the daemon, with nothing in between. -/
theorem run_turn (parked : d.stand = .parked) (permit : d.power.permit) :
    d.run [.wake, .take, .drain, .write] = some
      { d with
        power := .none
        stand := .serving d.power.requested
        flash := if d.power.dirty then (d.store.commit d.flash).2 else d.flash } := by
  cases dirty : d.power.dirty <;>
    simp [run, step, parked, permit, dirty, PowerRequests.wake, PowerRequests.take,
      PowerRequests.clearDirty, PowerRequests.none, committed]

end Daemon

/-- Where the daemon stands whose tasks wait there. -/
def Daemon.Stand.ofWaits? : List PowerWait → Option Stand
  | [] => some .gone
  | [.idle] => some .parked
  | [.delaying _ s] => some (.announced s)
  | _ => none

namespace World

/-- The power daemon of the system that has the board for itself. -/
def daemon? (w : World) : Option Daemon :=
  match w.devices with
  | [d] => (Stand.ofWaits? w.powers).map (w.daemon d)
  | _ => none

variable {w u : World} {d : Device} {stand : Stand} {now : Daemon} {i k : Nat} {t : Task}
  {wait : PowerWait} {asked : List PowerState} {who : Option Nat} {may : Dealing → Prop}

theorem daemon?_eq_some : w.daemon? = some now ↔ ∃ d stand, w.devices = [d] ∧
    Stand.ofWaits? w.powers = some stand ∧ w.daemon d stand = now := by
  unfold daemon?
  split
  next d here => simp [here]
  next other =>
    constructor
    · nofun
    · rintro ⟨d, stand, here, -, -⟩
      exact absurd here (other d)

/-- Unless its power task goes on, the system moves its daemon as a client. -/
theorem Conduct.moves (conduct : w.Conduct who may asked u) (take : ¬may .take)
    (serve : ¬may .serve) (known : w.daemon? = some now) :
    ∃ moves later, u.daemon? = some later ∧ now.run moves = some later ∧
      moves.filterMap (·.asks?) = asked ∧ now.executions moves = [] := by
  obtain ⟨d, stand, here, stands, rfl⟩ := daemon?_eq_some.mp known
  obtain ⟨e, there, moves, clients, asks, ran⟩ := conduct.alone take here
  refine ⟨moves, u.daemon e stand, ?_, ran stand, asks,
    Daemon.executions_eq_nil (Daemon.execute_notMem clients)⟩
  exact daemon?_eq_some.mpr ⟨e, stand, there, conduct.powers take serve ▸ stands, rfl⟩

theorem powers_eq (stands : Stand.ofWaits? w.powers = some stand)
    (task : w.tasks[k]? = some (i, .power wait)) : w.powers = [wait] := by
  have found : wait ∈ w.powers :=
    List.mem_filterMap.mpr ⟨_, List.mem_of_getElem? task, rfl⟩
  unfold Stand.ofWaits? at stands
  split at stands
  next none => simp [none] at found
  next only =>
    rw [only, List.mem_singleton] at found
    rw [only, found]
  next only =>
    rw [only, List.mem_singleton] at found
    rw [only, found]
  next => cases stands

/-- The power task goes to where the daemon stands. -/
theorem daemon?_withStep {step : TaskStep} (here : w.devices = [d])
    (task : w.tasks[k]? = some (i, .power wait)) (only : w.powers = [wait])
    (stands : Stand.ofWaits? step.power?.toList = some stand) :
    (w.withStep k i (.power wait) step).daemon? = some (w.daemon d stand) := by
  refine daemon?_eq_some.mpr ⟨d, stand, devices_withStep.trans here, ?_, ?_⟩
  · rw [powers_withStep_of_power task rfl only, stands]
  · cases step <;> rfl

/-- The surroundings move, and then the power task goes to where the daemon stands. -/
theorem Conduct.moves_withStep (conduct : w.Conduct none (fun _ => False) [] u)
    (step : TaskStep) (here : w.devices = [d])
    (task : u.tasks[k]? = some (i, .power wait)) (only : w.powers = [wait])
    (stands : Stand.ofWaits? step.power?.toList = some stand) :
    ∃ moves later, (u.withStep k i (.power wait) step).daemon? = some later ∧
      (w.daemon d stand).run moves = some later ∧ moves.filterMap (·.asks?) = [] ∧
        (w.daemon d stand).executions moves = [] := by
  obtain ⟨e, there, moves, clients, asks, ran⟩ := conduct.alone id here
  refine ⟨moves, u.daemon e stand, ?_, ran stand, asks,
    Daemon.executions_eq_nil (Daemon.execute_notMem clients)⟩
  exact daemon?_withStep there task ((conduct.powers id id).trans only) stands

/-! One turn -/

theorem powers_taken : (w.enter i d Device.takePowerRequest).2.powers = w.powers := by
  rw [powers, tasks_enter, Device.takePowerRequest_apply]
  simp [powers]

theorem daemon_taken (here : w.devices[i]? = some d) (alone : w.devices = [d]) :
    ∃ taken, (w.enter i d Device.takePowerRequest).2.devices = [taken] ∧ ∀ stand,
      (w.enter i d Device.takePowerRequest).2.daemon taken stand =
        { w.daemon d stand with
          power := .none
          flash := if d.power.dirty then (d.store.commit w.board.flash).2 else w.board.flash } := by
  rw [alone, List.getElem?_singleton] at here
  obtain ⟨rfl, -⟩ := Option.ite_none_right_eq_some.mp here
  simp only [World.enter, Device.takePowerRequest_apply, alone]
  refine ⟨_, rfl, fun stand => ?_⟩
  cases dirty : d.power.dirty <;> simp [daemon]

/-- The system takes a request, and announces a transition. -/
theorem resumePower_idle (going : d.stopped = false) :
    (w.enter i d Device.takePowerRequest).2.Conduct none (fun _ => False) []
        (w.resumePower i d .idle).1 ∧
      Stand.ofWaits? (w.resumePower i d .idle).2.power?.toList =
        some (.serving d.power.requested) := by
  have asked : (w.enter i d Device.takePowerRequest).1 = d.power.requested := by
    simp only [World.enter, Device.takePowerRequest_apply]
  simp only [World.resumePower, going, Bool.false_eq_true, if_false]
  rw [← asked]
  generalize w.enter i d Device.takePowerRequest = taken
  obtain ⟨state, v⟩ := taken
  cases state with
  | normal => exact ⟨.refl v, rfl⟩
  | _ => exact ⟨conduct_dispatch _, rfl⟩

end World

namespace PowerWait

/-- The transition that is carried out when the wait is over. -/
def carries? : PowerWait → Option PowerState
  | .idle => none
  | .delaying _ state => some state

end PowerWait

namespace Scene

open World

variable {p q : Scene} {e : Event} {now : Daemon} {k i : Nat} {wait : PowerWait}

/-- No other system comes up, and the power does not fail. -/
def sole (_ : Scene) : Event → Bool
  | .boot .. | .powerLoss => false
  | _ => true

/-- The power transition that the event carries out. -/
def executes? (p : Scene) (e : Event) : Option PowerState :=
  (p.powers? e).bind (·.2.carries?)

/-- A step of the power task. -/
theorem moves_power (manned : p.world.Manned) (permits : p.permits (.resume k))
    (task : p.world.tasks[k]? = some (i, .power wait)) (known : p.world.daemon? = some now) :
    ∃ moves later, (p.step (.resume k)).world.daemon? = some later ∧ now.run moves = some later ∧
      moves.filterMap (·.asks?) = [] ∧
        now.executions moves = (p.executes? (.resume k)).toList := by
  obtain ⟨d, stand, here, stands, rfl⟩ := daemon?_eq_some.mp known
  have only := powers_eq stands task
  have own : p.world.devices[i]? = some d := by
    have inside := manned _ (List.mem_of_getElem? task)
    simp only [here, List.length_singleton, Nat.lt_one_iff] at inside
    simp [here, inside]
  have further := task_resumeTask task own
  have executes : p.executes? (.resume k) = wait.carries? := by
    rw [executes?, powers?_eq_some.mpr ⟨k, rfl, task⟩]
    rfl
  rw [Scene.step, resume_eq task own, executes]
  rw [only] at stands
  cases wait with
  | delaying due state =>
      cases stands
      have conduct : p.world.Conduct none (fun _ => False) []
          (p.world.run i (Device.applyPower state)) := .run (Device.deals_applyPower state)
      obtain ⟨moves, later, after, ran, asks, idle⟩ :=
        conduct.moves_withStep (.waits (.power .idle)) here further only rfl
      refine ⟨.execute :: moves, later, after, ran, asks, ?_⟩
      exact congrArg (state :: ·) idle
  | idle =>
      cases stands
      cases going : d.stopped with
      | true =>
          have ends : p.world.resumeTask i d (.power .idle) = (p.world, .ends (.ok ())) := by
            simp [World.resumeTask, World.resumePower, going]
          rw [ends]
          exact ⟨[.quit], _, daemon?_withStep here task only rfl, rfl, rfl, rfl⟩
      | false =>
          have permit : d.power.permit := by
            simpa [Scene.permits, task, World.isReady, own, Task.isReady, Task.isCancelled,
              Task.isDue, Task.due?, going] using permits
          have turned := Daemon.run_turn (d := p.world.daemon d .parked) rfl permit
          obtain ⟨taken, alone, daemon⟩ := daemon_taken own here
          obtain ⟨conduct, stands⟩ := resumePower_idle (w := p.world) (i := i) going
          obtain ⟨moves, later, after, ran, asks, idle⟩ :=
            conduct.moves_withStep _ alone further (powers_taken.trans only) stands
          refine ⟨[.wake, .take, .drain, .write] ++ moves, later, after, ?_, ?_, ?_⟩
          · rw [Daemon.run_append, turned]
            rw [daemon] at ran
            exact ran
          · simpa [Move.asks?] using asks
          · rw [Daemon.executions_append turned]
            rw [daemon] at idle
            rw [Daemon.executions_eq_nil (by simp)]
            exact idle

theorem moves_step (manned : p.world.Manned) (permits : p.permits e) (allowed : sole p e)
    (known : p.world.daemon? = some now) : ∃ moves later,
      (p.step e).world.daemon? = some later ∧ now.run moves = some later ∧
        p.Asks (moves.filterMap (·.asks?)) e ∧ now.executions moves = (p.executes? e).toList := by
  cases power : p.powers? e with
  | none =>
      have powered : e ≠ .powerLoss := by
        rintro rfl
        cases allowed
      have old (options info hooked) : e ≠ .boot options info hooked := by
        rintro rfl
        cases allowed
      obtain ⟨asked, asks, conduct⟩ := conduct_step manned permits powered old
      obtain ⟨moves, later, after, ran, rfl, idle⟩ :=
        conduct.moves (not_deals_take power) (not_deals_serve old) known
      exact ⟨moves, later, after, ran, asks, by simp [idle, executes?, power]⟩
  | some entry =>
      obtain ⟨k, rfl, task⟩ := powers?_eq_some.mp power
      exact moves_power manned permits task known

/-- The power transitions that are asked for in the events. -/
def AsksAll (p : Scene) (asked : List PowerState) : List Event → Prop
  | [] => asked = []
  | e :: events => ∃ first rest, asked = first ++ rest ∧ p.Asks first e ∧
      (p.step e).AsksAll rest events

/-- The power transitions that are carried out in the events. -/
def executed (p : Scene) : List Event → List PowerState
  | [] => []
  | e :: events => (p.executes? e).toList ++ (p.step e).executed events

/-- What happens in the events is, to the daemon, such a sequence of moves. -/
theorem moves_run {events : List Event} (manned : p.world.Manned)
    (ran : p.run sole events = some q) (known : p.world.daemon? = some now) : ∃ moves later,
      q.world.daemon? = some later ∧ now.run moves = some later ∧
        p.AsksAll (moves.filterMap (·.asks?)) events ∧
          now.executions moves = p.executed events := by
  induction events generalizing p now with
  | nil =>
      cases ran
      exact ⟨[], now, known, rfl, rfl, rfl⟩
  | cons e events ih =>
      obtain ⟨permits, allowed, ran⟩ := run_cons ran
      obtain ⟨moves, next, after, first, asks, done⟩ := moves_step manned permits allowed known
      obtain ⟨more, later, last, rest, further, others⟩ := ih (manned_step permits manned) ran after
      refine ⟨moves ++ more, later, last, by simp [first, rest], ?_, ?_⟩
      · exact ⟨_, _, List.filterMap_append, asks, further⟩
      · rw [Daemon.executions_append first, done, others]
        rfl

/-! Starts -/

section

variable (options : Options) (info : DeviceInfo) (hooked : Bool) (board : Board)

/-- A start leaves a daemon that is parked, or one that was given up. -/
theorem daemon?_booting :
    let start : Daemon := .start (.make DeviceInfo.defaultName DeviceInfo.configSeed) board.flash
    ∃ moves later, ((World.make board []).booting options info hooked).daemon? = some later ∧
      start.run moves = some later ∧ moves.filterMap (·.asks?) = [] ∧ .execute ∉ moves := by
  intro start
  let site : Site := ⟨0, board, .make options info hooked, []⟩
  have devices : ((World.make board []).booting options info hooked).devices =
      [(Device.boot.run site).2.device] := rfl
  have powers : ((World.make board []).booting options info hooked).powers =
      (Device.boot.run site).2.spawned.filterMap (·.power?) := by
    rw [World.powers, World.booting, tasks_enter, List.filterMap_append, List.filterMap_map]
    rfl
  let may (x : Dealing) : Prop := x ≠ .take ∧ x ≠ .serve
  have take : ¬may .take := fun takes => takes.1 rfl
  have serve : ¬may .serve := fun serves => serves.2 rfl
  have attach : may .attach := by simp [may]
  have retract : may .retract := by simp [may]
  have enroll : may .enroll := by simp [may]
  rcases Device.boot_cases (s := site) ⟨rfl, rfl⟩ attach retract fun _ => enroll
    with ended | ⟨t, before, after⟩
  · obtain ⟨moves, clients, asks, ran⟩ := ended.called take
    have stands : Stand.ofWaits? ((Device.boot.run site).2.spawned.filterMap (·.power?)) =
        some .gone := by
      rw [ended.powers serve]
      rfl
    have known := daemon?_eq_some.mpr ⟨_, _, devices, powers ▸ stands, rfl⟩
    exact ⟨.quit :: moves, _, known, ran .gone, asks, by simpa using Daemon.execute_notMem clients⟩
  · have spawned : Daemon.Called [] t.daemon (Act.spawn (.power .idle) t).2.daemon := .refl _
    have called := ((before.called take).trans spawned).trans (after.called take)
    obtain ⟨moves, clients, asks, ran⟩ := called
    have stands : Stand.ofWaits? ((Device.boot.run site).2.spawned.filterMap (·.power?)) =
        some .parked := by
      have appended : (Act.spawn (.power .idle) t).2.spawned = t.spawned ++ [.power .idle] := rfl
      rw [after.powers serve, appended, List.filterMap_append, before.powers serve]
      rfl
    have known := daemon?_eq_some.mpr ⟨_, _, devices, powers ▸ stands, rfl⟩
    exact ⟨moves, _, known, ran .parked, asks, Daemon.execute_notMem clients⟩

theorem moves_boot :
    let start : Daemon := .start (.make DeviceInfo.defaultName DeviceInfo.configSeed) board.flash
    ∃ moves later, ((onBoard board).step (.boot options info hooked)).world.daemon? = some later ∧
      start.run moves = some later ∧ moves.filterMap (·.asks?) = [] ∧
        start.executions moves = [] := by
  intro start
  obtain ⟨moves, now, known, ran, asks, idle⟩ := daemon?_booting options info hooked board
  have conduct : Conduct (some 0) (· = .stop) [] _ _ :=
    conduct_bootOnly (World.make board []) options info hooked ⟨rfl, rfl⟩
  obtain ⟨more, later, after, further, others, quiet⟩ := conduct.moves nofun nofun known
  refine ⟨moves ++ more, later, after, by simp [start, ran, further], ?_, ?_⟩
  · rw [List.filterMap_append, asks, others]
    rfl
  · rw [Daemon.executions_append ran, Daemon.executions_eq_nil idle, quiet]
    rfl

end

/-- What the daemon of a system has made of the requests that some events made of it. -/
structure ServesRequests (p : Scene) (events : List Event) (q : Scene) : Prop where
  served : ∃ moves now, q.world.daemon? = some now ∧
    p.AsksAll (moves.filterMap (·.asks?)) events ∧ now.ServesRequests moves (p.executed events)
  /-- Between two events no caller is about to leave a permit. -/
  parked : ∀ d, q.world.devices = [d] → q.world.powers = [.idle] → d.power.permit = false →
    d.power.requested = normal

/-- The daemon carries out the last request of each burst, in order and once, unless it asks for
nothing; and it parks without a permit only when there is no request, or its caller is about to
leave one. So does the daemon of a system, for which a request is a single act. -/
theorem serves_requests :
    (∀ store flash moves now, (Daemon.start store flash).run moves = some now →
      now.ServesRequests moves ((Daemon.start store flash).executions moves)) ∧
    ∀ board options info hooked events q,
      ((onBoard board).step (.boot options info hooked)).run sole events = some q →
        ((onBoard board).step (.boot options info hooked)).ServesRequests events q := by
  have serves (store : Store) (flash : Nor) (moves : List Move) (now : Daemon)
      (ran : (Daemon.start store flash).run moves = some now) :
      now.ServesRequests moves ((Daemon.start store flash).executions moves) :=
    (Daemon.Serves.start store flash |>.run ran).serves
  refine ⟨serves, fun board options info hooked events q ran => ?_⟩
  have manned : ((onBoard board).step (.boot options info hooked)).world.Manned :=
    manned_step rfl fun _ => nofun
  obtain ⟨moves, now, known, booted, asks, idle⟩ := moves_boot options info hooked board
  obtain ⟨more, later, after, further, asked, done⟩ := moves_run manned ran known
  have whole := serves _ _ (moves ++ more) later
    (Daemon.run_append.trans (Option.bind_eq_some_iff.mpr ⟨now, booted, further⟩))
  rw [Daemon.executions_append booted, idle, done, List.nil_append] at whole
  refine ⟨⟨moves ++ more, later, after, ?_, whole⟩, fun d here powers permit => ?_⟩
  · rw [List.filterMap_append, asks, List.nil_append]
    exact asked
  · have same := daemon?_eq_some.mpr ⟨d, .parked, here, by rw [powers]; rfl, rfl⟩
    cases after.symm.trans same
    exact (whole.parked rfl permit).resolve_right (absurd rfl)

/-- A click asks for a restart while a standby is under way, and replaces a powerdown. -/
def replacingEvents : List Event :=
  [.requestPower 0 .standby, .resume 0, .requestPower 0 .wlanPowerdown, .clickEasyLink 0, .pass 500,
    .resume 0, .resume 0, .pass 500, .resume 0]

set_option maxRecDepth 4000 in
theorem serves_requests_replacing :
    (∃ now, (Daemon.start (.make "Device" 1) (.blank [])).run Daemon.replacing = some now ∧
      now.ServesRequests Daemon.replacing [.softwareReset, .wlanPowerdown] ∧ now.Rests) ∧
    ∃ q, (sample.step (.boot sampleOptions DeviceInfo.product false)).run sole replacingEvents =
      some q ∧ (sample.step (.boot sampleOptions DeviceInfo.product false)).ServesRequests
        replacingEvents q ∧
          (sample.step (.boot sampleOptions DeviceInfo.product false)).executed replacingEvents =
            [.standby, .softwareReset] := by
  refine ⟨⟨_, rfl, serves_requests.1 _ _ _ _ rfl, rfl, rfl, rfl⟩, ?_⟩
  have ran : ((sample.step (.boot sampleOptions DeviceInfo.product false)).run sole
      replacingEvents).isSome := by decide +kernel
  obtain ⟨q, ran⟩ := Option.isSome_iff_exists.mp ran
  exact ⟨q, ran, serves_requests.2 _ _ _ _ _ _ ran, by decide +kernel⟩

end Scene
end ConnectedDevice
