import ConnectedDevice.Proofs.Provisioning.Promotion
import ConnectedDevice.Proofs.Provisioning.RollBack

/-!
How long a record counts as fully configured. A click or a long press of the button takes it back,
and a run does that found the device without a network and fails, even if the device was configured
meanwhile. Nothing else does as long as the power lasts.
-/

namespace ConnectedDevice

open Provisioning (Progress)

def Change.TakesBack : Change → Prop
  | .restore _ | .reconfigure | .restoreDefaults => True
  | _ => False

theorem Change.promoted {c : Change} {st : Settings} (keeps : ¬c.TakesBack)
    (promoted : st.record.isPromoted) : (c.apply st).record.isPromoted := by
  simp only [ConfigRecord.isPromoted, beq_iff_eq] at promoted ⊢
  cases c with
  | addresses staticIp => cases staticIp <;> exact promoted
  | advance next =>
      simp only [apply, Settings.modifySystem, SystemConfig.advance]
      split
      next further =>
        simp only [promoted] at further
        cases next with
        | allConfigured => rfl
        | _ => cases further
      next => exact promoted
  | update u =>
      simp only [apply, Settings.modifySystem, SystemConfig.advance, Update.configured_apply,
        promoted]
      rfl
  | updateSoftAp u =>
      simp only [apply, Settings.modifySystem, Update.configured_apply]
      exact promoted
  | restore _ | reconfigure | restoreDefaults => exact absurd trivial keeps
  | _ => exact promoted

theorem Settings.reconfigure_unpromoted (st : Settings) :
    ¬(Change.reconfigure.apply st).record.isPromoted := by
  simp only [ConfigRecord.isPromoted, Change.apply, modifySystem,
    SystemConfig.requestReconfiguration, beq_iff_eq]
  split
  next => exact of_decide_eq_false rfl
  next other => exact other

/-- The deed neither takes the state back nor reads the record again. -/
def Deed.Retains : Deed → Prop
  | .change c => ¬c.TakesBack
  | .load => False
  | _ => True

theorem Device.promoted_kept : Kept Deed.Retains fun d _ => d.Promoted where
  same same promoted := by
    obtain ⟨st, loaded, promoted⟩ := promoted
    exact ⟨st, same.store ▸ loaded, promoted⟩
  deed {_ d _ _ _} retains leaves promoted := by
    cases leaves with
    | change c =>
        obtain ⟨st, loaded, promoted⟩ := promoted
        have loaded : d.store.loaded = some st := loaded
        exact ⟨c.apply st, by simp [Store.change, loaded], c.promoted retains promoted⟩
    | load _ _ => exact retains.elim
    | _ => exact promoted

namespace Provisioning

variable {st after : Settings} {wait : RunWait} {x : Progress}

theorem Settles.promoted (settles : Settles st wait x after) (goes : x ≠ .ended .poweredDown)
    (promoted : st.record.isPromoted) : after.record.isPromoted := by
  cases settles with
  | keeps _ | clears _ => exact promoted
  | joins _ =>
      have keeps : ¬(Change.advance .wlanUnconfigured).TakesBack := id
      exact Change.promoted keeps promoted
  | @retreats _ before _ =>
      have configured : before.configured ≠ .unconfigured := by
        intro fresh
        exact goes (by simp [SystemConfig.retreat, fresh])
      simp [ConfigRecord.isPromoted, Settings.restore, Settings.modifySystem,
        SystemConfig.rolledBack, configured]

theorem Settles.unpromoted (settles : Settles st wait (.ended .poweredDown) after) :
    ¬after.record.isPromoted := by
  generalize ended : Progress.ended .poweredDown = x at settles
  cases settles with
  | keeps goes | clears goes | joins goes => simp [← ended, Progress.isRetreat] at goes
  | @retreats _ before _ =>
      have fresh : before.configured = .unconfigured := by
        simpa [SystemConfig.retreat] using ended
      simp [ConfigRecord.isPromoted, Settings.restore, Settings.modifySystem,
        SystemConfig.rolledBack, fresh]

end Provisioning

namespace Device

open Act

variable {s : Site} {st : Settings}

theorem loaded_clickEasyLink (loaded : s.device.store.loaded = some st) :
    (clickEasyLink.run s).2.device.store.loaded = some (Change.reconfigure.apply st) := by
  rw [clickEasyLink, Fallible.bind_apply, settings_of_loaded loaded]
  rfl

theorem loaded_holdEasyLink (loaded : s.device.store.loaded = some st) :
    (holdEasyLink.run s).2.device.store.loaded = some (Change.restoreDefaults.apply st) := by
  rw [holdEasyLink, Fallible.bind_apply, settings_of_loaded loaded]
  dsimp only
  rw [Fallible.bind_lift, Act.bind_apply, Fallible.bind_apply]
  split <;> rfl

end Device

namespace Scene

variable {p q : Scene} {e : Event} {i : Nat}

/-- The system counts as fully configured. -/
def isConfigured (p : Scene) (i : Nat) : Bool := (p.world.settings? i).any (·.record.isPromoted)

/-- The device is asked to be configured anew, or starts anew. -/
def asksBack (i : Nat) : Event → Bool
  | .clickEasyLink j | .holdEasyLink j => j = i
  | .powerLoss => true
  | _ => false

/-- A run of the system fails that found it without a network. -/
def takesBack (p : Scene) (i : Nat) (e : Event) : Bool :=
  (p.goesOn? e).any fun (j, run, _) =>
    j = i && (p.step e).world.progress? i run = some (.ended .poweredDown)

def retains (i : Nat) (p : Scene) (e : Event) : Bool := !asksBack i e && !p.takesBack i e

theorem isConfigured_iff : p.isConfigured i ↔ ∃ d, p.world.devices[i]? = some d ∧ d.Promoted := by
  simp only [isConfigured, Option.any_eq_true, World.settings?, Option.bind_eq_some_iff,
    Device.Promoted, Option.mem_def]
  constructor
  · rintro ⟨st, ⟨d, here, loaded⟩, promoted⟩
    exact ⟨d, here, st, loaded, promoted⟩
  · rintro ⟨d, here, st, loaded, promoted⟩
    exact ⟨st, ⟨d, here, loaded⟩, promoted⟩

theorem takesBack_iff : p.takesBack i e ↔ ∃ run wait, p.goesOn? e = some (i, run, wait) ∧
    (p.step e).world.progress? i run = some (.ended .poweredDown) := by
  simp only [takesBack, Option.any_eq_true, Bool.and_eq_true, decide_eq_true_eq]
  constructor
  · rintro ⟨⟨j, run, wait⟩, goes, rfl, ended⟩
    exact ⟨run, wait, goes, ended⟩
  · rintro ⟨run, wait, goes, ended⟩
    exact ⟨⟨i, run, wait⟩, goes, rfl, ended⟩

theorem Does.retains {deed : Deed} (does : p.Does e i deed) (other : ¬p.StepsRun e i)
    (unasked : ¬asksBack i e) (old : i < p.world.devices.length) : deed.Retains := by
  cases does with
  | handle may =>
      cases may with
      | brings brings => cases brings <;> exact id
      | _ => trivial
  | goOn task _ _ => exact absurd ⟨_, _, goesOn?_eq_some.mpr ⟨_, rfl, task⟩⟩ other
  | boot _ => exact absurd old (Nat.lt_irrefl _)
  | answer may =>
      cases may with
      | update _ _ | updateSoftAp _ _ => exact id
      | _ => trivial
  | reconfigure _ | restoreDefaults _ => simp [asksBack] at unasked
  | receive _ receives => cases receives <;> trivial
  | finish _ finishes =>
      cases finishes with
      | install _ => exact id
      | commit => trivial
  | _ => trivial

theorem isConfigured_step (orderly : p.world.Orderly) (permits : p.permits e)
    (retains : p.retains i e) (configured : p.isConfigured i) : (p.step e).isConfigured i := by
  simp only [Scene.retains, Bool.and_eq_true, Bool.not_eq_true'] at retains
  obtain ⟨unasked, untaken⟩ := retains
  obtain ⟨d, here, promoted⟩ := isConfigured_iff.mp configured
  by_cases steps : p.StepsRun e i
  · obtain ⟨run, wait, goes⟩ := steps
    obtain ⟨st, loaded, counts⟩ := promoted
    have settings : p.world.settings? i = some st := by simpa [World.settings?, here] using loaded
    obtain ⟨x, after, progress, later, settles⟩ := settles_step orderly permits goes settings
    have goesOn : x ≠ .ended .poweredDown := by
      rintro rfl
      exact absurd (takesBack_iff.mpr ⟨run, wait, goes, progress⟩) (by simp [untaken])
    simpa [isConfigured, later] using settles.promoted goesOn counts
  -- Apart from the steps of its runs, every deed that takes the state back was asked for.
  · have powered : e ≠ .powerLoss := by
      rintro rfl
      cases unasked
    have old := (List.getElem?_eq_some_iff.mp here).1
    have kept : Kept (p.Does e i) fun d _ => d.Promoted :=
      Device.promoted_kept.mono fun _ does => does.retains steps (by simp [unasked]) old
    exact isConfigured_iff.mpr (device_step permits powered kept here promoted)

theorem settings?_attempt {w : World} {d : Device} {x : Fallible Unit} {st : Settings}
    (here : w.devices[i]? = some d)
    (done : (x.run ⟨i, w.board, d, []⟩).2.device.store.loaded = some st) :
    (w.attempt i x).settings? i = some st := by
  have entered : (w.attempt i x).devices[i]? = some (x.run ⟨i, w.board, d, []⟩).2.device :=
    World.devices_run _ here
  simp [World.settings?, entered, done]

theorem not_isConfigured_step (orderly : p.world.Orderly) (permits : p.permits e)
    (configured : p.isConfigured i) (back : asksBack i e ∨ p.takesBack i e) :
    ¬(p.step e).isConfigured i := by
  obtain ⟨d, here, st, loaded, promoted⟩ := isConfigured_iff.mp configured
  have loaded : d.store.loaded = some st := loaded
  rcases back with asked | taken
  · cases e with
    | clickEasyLink j =>
        obtain rfl : j = i := by simpa [asksBack] using asked
        have later := settings?_attempt here (Device.loaded_clickEasyLink loaded)
        simp only [isConfigured, Scene.step, later, Option.any_some]
        exact st.reconfigure_unpromoted
    | holdEasyLink j =>
        obtain rfl : j = i := by simpa [asksBack] using asked
        have later := settings?_attempt here (Device.loaded_holdEasyLink loaded)
        simp only [isConfigured, Scene.step, later, Option.any_some]
        exact Bool.false_ne_true
    | powerLoss => exact Bool.false_ne_true
    | _ => cases asked
  · obtain ⟨run, wait, goes, ended⟩ := takesBack_iff.mp taken
    have settings : p.world.settings? i = some st := by simpa [World.settings?, here] using loaded
    obtain ⟨x, after, progress, later, settles⟩ := settles_step orderly permits goes settings
    cases progress.symm.trans ended
    simpa [isConfigured, later] using settles.unpromoted

/-- A system that counts as fully configured does so exactly until it is asked to be configured
anew, loses its power, or a run fails that found it without a network. -/
theorem isConfigured_until {board : Board} (reachable : Reachable always (onBoard board) p)
    (configured : p.isConfigured i) :
    (∀ q, Reachable (retains i) p q → q.isConfigured i) ∧
      ∀ e, p.permits e → asksBack i e ∨ p.takesBack i e → ¬(p.step e).isConfigured i := by
  have orderly := orderly_reachable reachable
  constructor
  · intro q later
    have kept : q.world.Orderly ∧ q.isConfigured i := by
      induction later with
      | start => exact ⟨orderly, configured⟩
      | step _ permits retains kept =>
          exact ⟨orderly_step kept.1 permits, isConfigured_step kept.1 permits retains kept.2⟩
    exact kept.2
  · exact fun e permits => not_isConfigured_step orderly permits configured

/-- The network comes up late, when the next discovery runs already, and then that one fails. -/
def lateJoin : List Event :=
  joining ++ [.pass 20000, .resume 1, .notify (.wifiStatusChanged .stationUp)]

set_option maxRecDepth 4000 in
theorem isConfigured_until_lateJoin :
    ∃ p ∈ sample.run always lateJoin, p.isConfigured 0 ∧
      (∀ q, Reachable (retains 0) p q → q.isConfigured 0) ∧
        ∀ e, p.permits e → asksBack 0 e ∨ p.takesBack 0 e → ¬(p.step e).isConfigured 0 := by
  have ran : (sample.run always lateJoin).any (·.isConfigured 0) := by decide +kernel
  obtain ⟨p, ran, configured⟩ := (Option.any_eq_true _ _).mp ran
  have reachable : Reachable always (onBoard sample.world.board) p := reachable_run ran
  exact ⟨p, ran, configured, isConfigured_until reachable configured⟩

set_option maxRecDepth 4000 in
/-- Without any request, a discovery that fails takes the state back that a join brought. -/
theorem lateJoin_takes_back : ¬∀ p q, Reachable always sample p → p.isConfigured 0 →
    Reachable (fun _ e => !asksBack 0 e) p q → q.isConfigured 0 := by
  intro keeps
  have ran : (sample.run always lateJoin).any fun p => p.isConfigured 0 &&
      (p.run (fun _ e => !asksBack 0 e) [.notify (.easyLinkCompleted none), .resume 1]).any
        fun q => !q.isConfigured 0 := by
    decide +kernel
  obtain ⟨p, ran, ends⟩ := (Option.any_eq_true _ _).mp ran
  obtain ⟨configured, ends⟩ := Bool.and_eq_true_iff.mp ends
  obtain ⟨q, later, taken⟩ := (Option.any_eq_true _ _).mp ends
  have kept := keeps p q (reachable_run ran) configured (reachable_run later)
  simp [kept] at taken

end Scene
end ConnectedDevice
