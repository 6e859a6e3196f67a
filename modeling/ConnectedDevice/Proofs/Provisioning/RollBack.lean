import ConnectedDevice.Proofs.Provisioning.Protocol

/-!
What runs make of the settings. A run that goes back takes the system settings as a whole to those
that it found when it started, and so it also takes back what others wrote since: a name, the power
saving, and what the next run is asked to do. All else that is stored stays.
-/

namespace ConnectedDevice

open Provisioning (Progress)

/-- What the provisioning does not receive. -/
structure Untaught where
  name : String
  rfPowerSave : Bool
  mcuPowerSave : Bool
  bypass : Bypass
deriving DecidableEq

namespace SystemConfig

def untaught (c : SystemConfig) : Untaught := ⟨c.name, c.rfPowerSave, c.mcuPowerSave, c.bypass⟩

/-- How a run ends that goes back to these settings. -/
def retreat (before : SystemConfig) : Outcome :=
  if before.configured = .unconfigured then .poweredDown else .rolledBack

theorem untaught_rolledBack (before : SystemConfig) :
    before.rolledBack.untaught = before.untaught := by
  unfold rolledBack
  split <;> rfl

end SystemConfig

theorem Settings.clear_of_no {st : Settings} (bypass : st.system.bypass = .no) : st.clear = st := by
  obtain ⟨⟨table, system, app⟩, status⟩ := st
  have bypass : system.bypass = .no := bypass
  simp [clear, modifySystem, SystemConfig.cleared, ← bypass]

/-- The settings that a run remembers when it goes on, which it has captured if it starts. -/
def RunWait.snapshot? (st : Settings) : RunWait → Option SystemConfig
  | .start => some st.system.cleared
  | wait => wait.before?

/-- The settings when a run may go back. -/
def RunWait.settled (st : Settings) : RunWait → Settings
  | .start => st.clear
  | _ => st

namespace Provisioning

def Progress.isRetreat : Progress → Bool
  | .ended .rolledBack | .ended .poweredDown => true
  | _ => false

/-- A run goes on with the settings as they are, or goes back. -/
inductive Reverts (before : SystemConfig) (st : Settings) : Progress → Settings → Prop
  | goesOn {x : Progress} : x.isRetreat = false → Reverts before st x st
  | goesBack : Reverts before st (.ended before.retreat) (st.restore before)

/-- What a step makes of the settings. -/
inductive Settles (st : Settings) : RunWait → Progress → Settings → Prop
  | keeps {wait : RunWait} {x : Progress} : x.isRetreat = false → Settles st wait x st
  | clears {x : Progress} : x.isRetreat = false → Settles st .start x st.clear
  | joins {number : Nat} {before : SystemConfig} {x : Progress} :
      x.isRetreat = false → Settles st (.discovering number before) x st.joining
  | retreats {wait : RunWait} {before : SystemConfig} : wait.snapshot? st = some before →
      Settles st wait (.ended before.retreat) ((wait.settled st).restore before)

variable {before : SystemConfig} {v w : Outlook} {st : Settings} {x : Progress} {wait : RunWait}

theorem Backs.reverts {o : Outcome} (backs : Backs before v o w) (loaded : v.settings = some st) :
    ∃ after, w.settings = some after ∧ Reverts before st (.ended o) after := by
  have back : Reverts before st (.ended before.retreat) (st.restore before) := .goesBack
  cases backs with
  | unloaded missing => cases missing.symm.trans loaded
  | off known fresh =>
      cases known.symm.trans loaded
      exact ⟨_, rfl, by simpa [SystemConfig.retreat, fresh] using back⟩
  | rejoins known configured =>
      cases known.symm.trans loaded
      exact ⟨_, rfl, by simpa [SystemConfig.retreat, configured] using back⟩

theorem Opens.reverts (opens : Opens before v x w) (loaded : v.settings = some st) :
    ∃ after, w.settings = some after ∧ Reverts before st x after := by
  cases opens with
  | opens _ => exact ⟨st, loaded, .goesOn rfl⟩
  | refused _ backs => exact backs.reverts loaded

theorem Fails.reverts (fails : Fails before v x w) (loaded : v.settings = some st) :
    ∃ after, w.settings = some after ∧ Reverts before st x after := by
  cases fails with
  | opens _ opens => exact opens.reverts loaded
  | backs _ backs => exact backs.reverts loaded

theorem Tries.reverts {method : DiscoveryMethod} {number : Nat}
    (tries : Tries before method number v x w) (loaded : v.settings = some st) :
    ∃ after, w.settings = some after ∧ Reverts before st x after := by
  cases tries with
  | discovers _ => exact ⟨st, loaded, .goesOn rfl⟩
  | fails _ fails => exact fails.reverts loaded

theorem Reverts.settles {after : Settings} (reverts : Reverts before st x after)
    (known : wait.snapshot? st = some before) (waits : wait ≠ .start) :
    Settles st wait x after := by
  cases reverts with
  | goesOn goes => exact .keeps goes
  | goesBack =>
      have settled : wait.settled st = st := by
        cases wait with
        | start => exact absurd rfl waits
        | _ => rfl
      have retreats := Settles.retreats known
      rwa [settled] at retreats

theorem Begins.settles (begins : Begins v x w) (loaded : v.settings = some st) :
    ∃ after, w.settings = some after ∧ Settles st .start x after := by
  have start {after : Settings} (reverts : Reverts st.system.cleared st.clear x after) :
      Settles st .start x after := by
    cases reverts with
    | goesOn goes => exact .clears goes
    | goesBack =>
        have snapshot : RunWait.start.snapshot? st = some st.system.cleared := rfl
        exact .retreats snapshot
  cases begins with
  | unloaded missing => cases missing.symm.trans loaded
  | joins known _ =>
      cases known.symm.trans loaded
      exact ⟨_, rfl, .clears rfl⟩
  | opens known _ opens =>
      cases known.symm.trans loaded
      obtain ⟨after, settings, reverts⟩ := opens.reverts rfl
      exact ⟨after, settings, start reverts⟩
  | opensWithout known bypass _ opens =>
      cases known.symm.trans loaded
      obtain ⟨after, settings, reverts⟩ := opens.reverts loaded
      exact ⟨after, settings, start (by rwa [Settings.clear_of_no bypass])⟩
  | tries known bypass _ tries =>
      cases known.symm.trans loaded
      obtain ⟨after, settings, reverts⟩ := tries.reverts loaded
      exact ⟨after, settings, start (by rwa [Settings.clear_of_no bypass])⟩

theorem Wakes.settles (wakes : Wakes v wait x w) (loaded : v.settings = some st) :
    ∃ after, w.settings = some after ∧ Settles st wait x after := by
  have later {before : SystemConfig} (known : wait.before? = some before) (waits : wait ≠ .start)
      (reverts : ∃ after, w.settings = some after ∧ Reverts before st x after) :
      ∃ after, w.settings = some after ∧ Settles st wait x after := by
    obtain ⟨after, settings, reverts⟩ := reverts
    refine ⟨after, settings, reverts.settles ?_ waits⟩
    cases wait with
    | start => exact absurd rfl waits
    | _ => exact known
  cases wakes with
  | failed _ fails => exact later rfl (by simp) (fails.reverts loaded)
  | unloaded _ missing _ => cases missing.symm.trans loaded
  | joins _ known =>
      cases known.symm.trans loaded
      refine ⟨_, rfl, .joins ?_⟩
      split <;> rfl
  | late _ _ _ tries => exact later rfl (by simp) (tries.reverts loaded)
  | lateWithout _ _ _ fails => exact later rfl (by simp) (fails.reverts loaded)
  | _ => exact ⟨st, loaded, .keeps rfl⟩

theorem Turn.settles (turn : Turn v wait x w) (loaded : v.settings = some st) :
    ∃ after, w.settings = some after ∧ Settles st wait x after := by
  cases turn with
  | begins begins => exact begins.settles loaded
  | ends _ _ =>
      have settings : (v.farewell wait).settings = v.settings := by
        unfold Outlook.farewell
        split <;> rfl
      exact ⟨st, settings.trans loaded, .keeps rfl⟩
  | wakes _ _ wakes => exact wakes.settles loaded

/-- A run that waits remembers what it found, if anything. -/
theorem Protocol.remembers {setup : Setup} {said : List Call}
    (protocol : Protocol setup said (.waiting wait)) :
    wait ≠ .start ∧ ∀ known ∈ wait.before?, known = setup.system.cleared := by
  have serves {said : List Call} (tail : Tail setup said (.waiting wait)) :
      wait ≠ .start ∧ ∀ known ∈ wait.before?, known = setup.system.cleared := by
    obtain ⟨_, _, served⟩ := tail
    cases served
    exact ⟨by simp, by simp [RunWait.before?]⟩
  cases protocol with
  | direct _ tail => exact serves tail
  | attempted _ _ attempted =>
      cases attempted with
      | discovering _ _ _ | joining _ _ =>
          refine ⟨by simp, fun known found => ?_⟩
          cases found
          rfl
      | failed _ _ _ tail => exact serves tail
      | exhausted _ tail => exact serves tail

end Provisioning

def World.settings? (w : World) (i : Nat) : Option Settings :=
  (w.devices[i]?).bind (·.store.loaded)

theorem World.settings?_of_outlook? {w : World} {i run : Nat} {v : Outlook}
    (sees : w.outlook? i run = some v) : w.settings? i = v.settings := by
  obtain ⟨d, here, rfl⟩ := Option.map_eq_some_iff.mp sees
  simp [settings?, here, Site.outlook]

namespace Scene

variable {p q : Scene} {e : Event} {i run : Nat} {setup : Setup} {wait : RunWait} {st : Settings}

theorem settles_step (orderly : p.world.Orderly) (permits : p.permits e)
    (goes : p.goesOn? e = some (i, run, wait)) (loaded : p.world.settings? i = some st) :
    ∃ x after, (p.step e).world.progress? i run = some x ∧
      (p.step e).world.settings? i = some after ∧ Provisioning.Settles st wait x after := by
  obtain ⟨v, x, w, before, later, turn, progress⟩ := turn_step orderly permits goes
  rw [World.settings?_of_outlook? before] at loaded
  obtain ⟨after, settings, settles⟩ := turn.settles loaded
  exact ⟨x, after, progress, (World.settings?_of_outlook? later).trans settings, settles⟩

/-- The run that starts in `p` with the event `e` goes on in `q` with the event `last`, which is
the same event if it starts there. -/
structure Continues (p : Scene) (e : Event) (events : List Event) (q : Scene) (last : Event)
    (i run : Nat) (wait : RunWait) : Prop where
  starts : p.goesOn? e = some (i, run, .start)
  ran : p.run powered events = some q
  first : (events ++ [last]).head? = some e
  permits : q.permits last
  goes : q.goesOn? last = some (i, run, wait)

/-- What a run remembers is what it found, however long ago. -/
theorem Continues.snapshot {events : List Event} {last : Event}
    (continues : p.Continues e events q last i run wait) (orderly : p.world.Orderly)
    (known : p.setup? i = some setup) :
    q.world.Orderly ∧ ∃ st, q.world.settings? i = some st ∧
      ∀ before ∈ wait.snapshot? st, before = setup.system.cleared := by
  obtain ⟨starts, ran, first, permits, goes⟩ := continues
  cases events with
  | nil =>
      cases ran
      cases first
      cases starts.symm.trans goes
      obtain ⟨d, st, here, loaded, rfl⟩ := setup?_eq_some.mp known
      refine ⟨orderly, st, by simp [World.settings?, here, loaded], ?_⟩
      intro before snapshot
      cases snapshot
      rfl
  -- From its first step on, what the run said tells what it remembers while it waits.
  | cons f events =>
      cases first
      obtain ⟨permitted, -, ran⟩ := run_cons ran
      obtain ⟨x, speaks⟩ := Speaks.start orderly permitted starts known
      obtain ⟨y, speaks⟩ := speaks.events ran
      obtain ⟨d, here, -, loaded⟩ := speaks.system
      obtain ⟨st, loaded⟩ := Option.isSome_iff_exists.mp loaded
      refine ⟨speaks.orderly, st, by simp [World.settings?, here, loaded], ?_⟩
      have waits := progress?_of_goesOn? speaks.orderly goes
      cases waits.symm.trans speaks.progress
      obtain ⟨waits, remembers⟩ := speaks.protocol.remembers
      cases wait with
      | start => exact absurd rfl waits
      | _ => exact remembers

/-- A run that goes back leaves the system settings that it found when it started, whatever was
written since, and all else as it is. What it does not receive itself it keeps exactly if nobody
left it otherwise meanwhile. -/
theorem rollBack_reverts_system {board : Board} {events : List Event} {last : Event} {x : Progress}
    (reachable : Reachable always (onBoard board) p) (known : p.setup? i = some setup)
    (continues : p.Continues e events q last i run wait)
    (ended : (q.step last).world.progress? i run = some x) (goesBack : x.isRetreat) :
    ∃ st, q.world.settings? i = some st ∧ x = .ended setup.system.retreat ∧
      (q.step last).world.settings? i =
        some ((wait.settled st).restore setup.system.cleared) ∧
      (((wait.settled st).restore setup.system.cleared).system.untaught =
          (wait.settled st).system.untaught ↔
        (wait.settled st).system.untaught = setup.system.cleared.untaught) := by
  obtain ⟨orderly, st, settings, remembers⟩ :=
    continues.snapshot (orderly_reachable reachable) known
  obtain ⟨y, after, progress, later, settles⟩ :=
    settles_step orderly continues.permits continues.goes settings
  cases progress.symm.trans ended
  cases settles with
  | keeps goesOn | clears goesOn | joins goesOn => simp [goesOn] at goesBack
  | retreats snapshot =>
      cases remembers _ snapshot
      refine ⟨st, settings, rfl, later, ?_⟩
      have restored : ((wait.settled st).restore setup.system.cleared).system.untaught =
          setup.system.cleared.untaught := SystemConfig.untaught_rolledBack _
      rw [restored]
      exact eq_comm

/-- Over the network, the device gets a name. -/
def rename : Server.Request where
  method := .post
  path := "/config-write"
  contentType := none
  declared := none
  chunks := ["\x7b\"NAME\":\"Kitchen\"\x7d".toUTF8.data.toList]
  fault := none

/-- The device is renamed while it waits for credentials, of which none arrive. -/
def renamed : List Event :=
  [.boot sampleOptions DeviceInfo.product false, .resume 1, .request 0 rename,
    .notify (.easyLinkCompleted none)]

set_option maxRecDepth 8000 in
theorem rollBack_reverts_system_renamed :
    let p := sample.step (.boot sampleOptions DeviceInfo.product false)
    ∃ q ∈ p.run powered (renamed.drop 1), ∃ (setup : Setup) (wait : RunWait) (x : Progress),
      p.setup? 0 = some setup ∧ (q.step (.resume 1)).world.progress? 0 0 = some x ∧ x.isRetreat ∧
        ∃ st, q.world.settings? 0 = some st ∧ x = .ended setup.system.retreat ∧
          (q.step (.resume 1)).world.settings? 0 =
            some ((wait.settled st).restore setup.system.cleared) ∧
          (((wait.settled st).restore setup.system.cleared).system.untaught =
              (wait.settled st).system.untaught ↔
            (wait.settled st).system.untaught = setup.system.cleared.untaught) := by
  intro p
  have booted : Reachable always sample p := .step .start rfl rfl
  have starts : p.goesOn? (.resume 1) = some (0, 0, .start) := by decide +kernel
  have loaded : (p.setup? 0).isSome := by decide +kernel
  have ran : (p.run powered (renamed.drop 1)).any fun q =>
      q.permits (.resume 1) &&
        ((q.goesOn? (.resume 1)).any (fun goes => goes.1 = 0 && goes.2.1 = 0) &&
          ((q.step (.resume 1)).world.progress? 0 0).any (·.isRetreat)) := by
    decide +kernel
  obtain ⟨setup, known⟩ := Option.isSome_iff_exists.mp loaded
  obtain ⟨q, ran, ends⟩ := (Option.any_eq_true _ _).mp ran
  obtain ⟨permits, ends⟩ := Bool.and_eq_true_iff.mp ends
  obtain ⟨goes, ends⟩ := Bool.and_eq_true_iff.mp ends
  obtain ⟨⟨i, run, wait⟩, goes, numbers⟩ := (Option.any_eq_true _ _).mp goes
  obtain ⟨rfl, rfl⟩ : i = 0 ∧ run = 0 := by simpa using numbers
  obtain ⟨x, progress, goesBack⟩ := (Option.any_eq_true _ _).mp ends
  exact ⟨q, ran, setup, wait, x, known, progress, goesBack,
    rollBack_reverts_system booted known ⟨starts, ran, rfl, permits, goes⟩ progress goesBack⟩

set_option maxRecDepth 8000 in
/-- An accepted name is lost when a run goes back. -/
theorem renamed_loses_name :
    (∃ q ∈ sample.run always (renamed.take 2), q.status? 0 rename = some 200) ∧
      ¬∀ q e i run wait x st, Reachable always sample q → q.permits e →
        q.goesOn? e = some (i, run, wait) → q.world.settings? i = some st →
          (q.step e).world.progress? i run = some x → x.isRetreat →
            ((q.step e).world.settings? i).map (·.system.untaught) =
              some (wait.settled st).system.untaught := by
  constructor
  · have answered : (sample.run always (renamed.take 2)).any fun q =>
        q.status? 0 rename = some 200 := by
      decide +kernel
    obtain ⟨q, ran, answered⟩ := (Option.any_eq_true _ _).mp answered
    exact ⟨q, ran, of_decide_eq_true answered⟩
  · intro keeps
    have ran : (sample.run always renamed).any fun q =>
        q.permits (.resume 1) && ((q.goesOn? (.resume 1)).any fun (i, run, wait) =>
          (q.world.settings? i).any fun st =>
            ((q.step (.resume 1)).world.progress? i run).any fun x =>
              x.isRetreat && ((q.step (.resume 1)).world.settings? i).map (·.system.untaught) !=
                some (wait.settled st).system.untaught) := by
      decide +kernel
    obtain ⟨q, ran, ends⟩ := (Option.any_eq_true _ _).mp ran
    obtain ⟨permits, goes⟩ := Bool.and_eq_true_iff.mp ends
    obtain ⟨⟨i, run, wait⟩, goes, lost⟩ := (Option.any_eq_true _ _).mp goes
    obtain ⟨st, settings, lost⟩ := (Option.any_eq_true _ _).mp lost
    obtain ⟨x, progress, lost⟩ := (Option.any_eq_true _ _).mp lost
    obtain ⟨goesBack, lost⟩ := Bool.and_eq_true_iff.mp lost
    exact bne_iff_ne.mp lost
      (keeps q _ i run wait x st (reachable_run ran) permits goes settings progress goesBack)

end Scene
end ConnectedDevice
