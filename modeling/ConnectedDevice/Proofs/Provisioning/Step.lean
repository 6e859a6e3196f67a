import ConnectedDevice.Proofs.Provisioning.Turn
import ConnectedDevice.Proofs.World.Progress

/-!
The step of a run as an event: what the run sees before and after it, and how far it came.
-/

namespace ConnectedDevice

open Act

/-- What a run of a system sees. -/
def World.outlook? (w : World) (i run : Nat) : Option Outlook :=
  (w.devices[i]?).map fun d => Site.outlook ⟨i, w.board, d, []⟩ run

namespace Provisioning

variable {run : Nat} {s : Site} {v : Outlook}

theorem yields_close (o : Outcome) : v.Yields run (close run o) fun _ w => w = v := by
  refine .hook _ fun s sees => ⟨v, ?_, rfl⟩
  obtain ⟨rfl, known⟩ := sees
  have session : (s.device.close run o).session run = s.device.session run := by
    simp [Device.session, Device.close, Device.modifyRun, known]
  have told : (s.device.close run o).isCancelled run = s.device.isCancelled run := by
    simp [Device.isCancelled, Device.close, Device.modifyRun, known]
  have method : ((s.device.close run o).runs[run]?).bind (·.method) =
      (s.device.runs[run]?).bind (·.method) := by
    simp [Device.close, Device.modifyRun, known]
  have length : run < (s.device.close run o).runs.length := by
    simpa [Device.close, Device.modifyRun] using known
  let subscriptions := ((s.device.runs[run]?).map (·.subscriptions)).getD []
  refine ⟨?_, length⟩
  change Site.outlook
    { s with
      device := s.device.close run o
      board := (unregister subscriptions s).2.board } run = _
  simp only [Site.outlook, session, told, method]
  rfl

/-- How far a run came that took a step. -/
def Progress.ofStep (run : Nat) (next : Option RunWait) (d : Device) : Option Progress :=
  match next with
  | some wait => some (.waiting wait)
  | none => (d.outcome? run).map .ended

theorem resume_turns (wait : RunWait) (sees : s.Sees run v) : ∃ x w, Turn v wait x w ∧
    (resume run wait s).2.Sees run w ∧
      Progress.ofStep run (resume run wait s).1 (resume run wait s).2.device = some x := by
  obtain ⟨w, seen, turn⟩ := yields_proceed wait s sees
  rw [resume_apply]
  generalize proceed run wait s = result at seen turn ⊢
  obtain ⟨x, t⟩ := result
  refine ⟨x, w, turn, ?_⟩
  cases x with
  | waiting next => exact ⟨seen, rfl⟩
  | ended o =>
      obtain ⟨_, closed, rfl⟩ := yields_close o t seen
      refine ⟨closed, ?_⟩
      have known := seen.known
      simp [Progress.ofStep, device_close, Device.outcome?, Device.close, Device.modifyRun, known]

end Provisioning

namespace Scene

variable {p : Scene} {e : Event} {i run : Nat} {wait : RunWait}

open Provisioning World

theorem known_of_goesOn? (orderly : p.world.Orderly) (goes : p.goesOn? e = some (i, run, wait)) :
    ∃ d, p.world.devices[i]? = some d ∧ run < d.runs.length := by
  obtain ⟨k, rfl, task⟩ := goesOn?_eq_some.mp goes
  have here := List.getElem?_eq_getElem (orderly.manned _ (List.mem_of_getElem? task))
  have last := (orderly.device here).last run (List.mem_map.mpr ⟨_, mem_waits task, rfl⟩)
  rw [Device.ledger, List.length_map] at last
  exact ⟨_, here, by omega⟩

theorem progress?_of_goesOn? (orderly : p.world.Orderly)
    (goes : p.goesOn? e = some (i, run, wait)) :
    p.world.progress? i run = some (.waiting wait) := by
  obtain ⟨d, here, -⟩ := known_of_goesOn? orderly goes
  obtain ⟨k, rfl, task⟩ := goesOn?_eq_some.mp goes
  exact orderly.progress?_waiting.mpr ⟨d, here, orderly.waits_eq here (World.mem_waits task)⟩

/-- The step of a run is a turn of what it sees. -/
theorem turn_step (orderly : p.world.Orderly) (permits : p.permits e)
    (goes : p.goesOn? e = some (i, run, wait)) : ∃ v x w, p.world.outlook? i run = some v ∧
      (p.step e).world.outlook? i run = some w ∧ Turn v wait x w ∧
        (p.step e).world.progress? i run = some x := by
  have later := orderly_step orderly permits
  obtain ⟨d, here, known⟩ := known_of_goesOn? orderly goes
  obtain ⟨k, rfl, task⟩ := goesOn?_eq_some.mp goes
  let s : Site := ⟨i, p.world.board, d, []⟩
  have sees : s.Sees run (s.outlook run) := ⟨rfl, known⟩
  obtain ⟨x, w, turn, seen, progress⟩ := resume_turns wait sees
  obtain ⟨device, board, -⟩ := resume_run task here
  have waits := orderly.waits_resume task here
  refine ⟨s.outlook run, x, w, by simp [outlook?, here, s], ?_, turn, ?_⟩
  · rw [← seen.outlook, outlook?]
    simp only [Scene.step]
    rw [device, Option.map_some, board]
    rfl
  · simp only [Scene.step] at later ⊢
    cases next : (resume run wait s).1 with
    | some wait =>
        rw [next] at progress waits
        cases progress
        exact later.progress?_waiting.mpr ⟨_, device, waits⟩
    | none =>
        rw [next] at progress
        obtain ⟨o, ended, rfl⟩ := Option.map_eq_some_iff.mp progress
        exact later.progress?_ended.mpr ⟨_, device, ended⟩

end Scene
end ConnectedDevice
