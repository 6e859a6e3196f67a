import ConnectedDevice.Proofs.Provisioning.Decision
import ConnectedDevice.Proofs.World.Tidy

/-!
The sessions of a running system. Whatever happens, a session is decided once at most, keeps its
decision until its run opens another one, and wakes the run. Only the run that goes on hears of
discoveries; and so its system takes nothing from data that come after the decision, and nothing but
the decision from data that cannot be used.
-/

namespace ConnectedDevice

open Provisioning (Progress)

/-- The sessions of all runs from a number on are fresh. -/
def Device.FreshFrom (n : Nat) (d : Device) : Prop :=
  ∀ run r, n ≤ run → d.runs[run]? = some r → r.session = .fresh

theorem Device.freshFrom_kept (n : Nat) :
    Kept (fun deed => ∀ run f, deed = .session run f → run < n) fun d _ => d.FreshFrom n where
  same {d later _} same fresh := by
    intro run l later_run there
    have inside : run < d.runs.length := same.length ▸ (List.getElem?_eq_some_iff.mp there).1
    have here := List.getElem?_eq_getElem inside
    obtain ⟨_, found, kept⟩ := same.runs here
    cases there.symm.trans found
    exact kept.session.trans (fresh run _ later_run here)
  deed {_ d _ _ _} may leaves fresh := by
    intro run r later there
    cases leaves with
    | enroll subscriptions _ =>
        simp only [Device.enroll, List.getElem?_append] at there
        split at there
        · exact fresh run r later there
        · rw [List.getElem?_singleton] at there
          obtain ⟨-, ⟨⟩⟩ := Option.ite_none_right_eq_some.mp there
          rfl
    | session other f =>
        have apart : other ≠ run := fun same => by
          have known := may other f rfl
          omega
        simp only [modifySession, modifyRun, List.getElem?_modify, apart, if_false] at there
        exact fresh run r later (by simpa using there)
    | close other o =>
        simp only [Device.close, modifyRun, List.getElem?_modify] at there
        obtain ⟨before, here, rfl⟩ := Option.map_eq_some_iff.mp there
        split
        · exact fresh run before later here
        · exact fresh run before later here
    | _ => exact fresh run r later there

theorem World.Orderly.exists_progress {w : World} {i run : Nat} {session : Session}
    (orderly : w.Orderly) (known : w.session? i run = some session) :
    ∃ x, w.progress? i run = some x := by
  obtain ⟨d, here, r, listed, -⟩ := World.session?_eq_some.mp known
  have entry : d.ledger[run]? = some (r.method, r.outcome) := by simp [Device.ledger, listed]
  cases ended : r.outcome with
  | none =>
      have going := ((orderly.device here).outcome entry).mp ended
      obtain ⟨⟨_, wait⟩, waits, rfl⟩ := List.mem_map.mp going
      exact ⟨_, orderly.progress?_waiting.mpr ⟨d, here, orderly.waits_eq here waits⟩⟩
  | some o =>
      have outcome : d.outcome? run = some o := by simp [Device.outcome?, listed, ended]
      exact ⟨.ended o, orderly.progress?_ended.mpr ⟨d, here, outcome⟩⟩

namespace Scene

variable {p : Scene} {e : Event} {i run : Nat} {session : Session} {d : Device}

open World

/-- Only runs that are known hear anything, and take steps. -/
theorem Does.known {f : Session → Session} (tidy : p.world.Tidy) (orderly : p.world.Orderly)
    (here : p.world.devices[i]? = some d) (does : p.Does e i (.session run f)) :
    run < d.runs.length := by
  rcases p.goesOn?_cases e i run with ⟨wait, goes⟩ | other
  · obtain ⟨_, same, inside⟩ := known_of_goesOn? orderly goes
    cases here.symm.trans same
    exact inside
  · obtain ⟨n, -, -, listens⟩ := does.hears other
    obtain ⟨x, found, callback⟩ := List.mem_map.mp listens
    obtain ⟨_, same, r, listed, -⟩ := tidy x (List.mem_filter.mp found).1 i run callback
    cases here.symm.trans same
    exact (List.getElem?_eq_some_iff.mp listed).1

/-- A run that starts in the event has heard nothing yet. -/
theorem session?_new (tidy : p.world.Tidy) (orderly : p.world.Orderly) (permits : p.permits e)
    (unknown : p.world.session? i run = none)
    (after : (p.step e).world.session? i run = some session) : session = .fresh := by
  obtain ⟨later, there, r, listed, rfl⟩ := session?_eq_some.mp after
  have powered : e ≠ .powerLoss := by
    rintro rfl
    cases there
  cases here : p.world.devices[i]? with
  | some d =>
      have beyond : d.runs.length ≤ run := by simpa [session?, here] using unknown
      have kept : Kept (p.Does e i) fun d' _ => d'.FreshFrom d.runs.length := by
        refine (Device.freshFrom_kept _).mono fun deed does other f same => ?_
        subst same
        exact does.known tidy orderly here
      have start : d.FreshFrom d.runs.length := by
        intro other r later found
        have inside := (List.getElem?_eq_some_iff.mp found).1
        omega
      obtain ⟨_, found, fresh⟩ := device_step permits powered kept here start
      cases there.symm.trans found
      exact fresh run r beyond listed
  | none =>
      have beyond := List.getElem?_eq_none_iff.mp here
      have inside := (List.getElem?_eq_some_iff.mp there).1
      by_cases boots : ∃ options info hooked, e = .boot options info hooked
      · obtain ⟨options, info, hooked, rfl⟩ := boots
        let made : World :=
          { p.world with devices := p.world.devices ++ [.make options info hooked] }
        have length : (p.step (.boot options info hooked)).world.devices.length =
            made.devices.length := path_boot.length
        have last : i = p.world.devices.length := by
          simp only [made, List.length_append, List.length_singleton] at length
          omega
        have start : made.Holds i fun d _ => d.FreshFrom 0 := by
          refine ⟨.make options info hooked, ?_, fun run r _ found => ?_⟩
          · rw [last]
            exact List.getElem?_concat_length
          · cases found
        have kept : Kept (p.Does (.boot options info hooked) i) fun d _ => d.FreshFrom 0 := by
          refine (Device.freshFrom_kept 0).mono fun deed does other f same => ?_
          subst same
          cases does with
          | boot boots => cases boots
        obtain ⟨_, found, fresh⟩ := start.path kept path_boot
        cases there.symm.trans found
        exact fresh run r (Nat.zero_le _) listed
      · have same := length_step permits orderly.manned powered
          fun options info hooked same => boots ⟨options, info, hooked, same⟩
        omega

/-- Every session fits how far its run came. -/
def Fits (p : Scene) : Prop := ∀ i run session x, p.world.session? i run = some session →
  p.world.progress? i run = some x → session.Fits x

theorem Fits.step (fits : p.Fits) (tidy : p.world.Tidy) (orderly : p.world.Orderly)
    (permits : p.permits e) : (p.step e).Fits := by
  intro i run later x after progress
  cases before : p.world.session? i run with
  | none =>
      cases session?_new tidy orderly permits before after
      refine ⟨Session.counts_fresh, fun wait _ q _ holds => ?_⟩
      cases q <;> cases holds
  | some session =>
      have powered : e ≠ .powerLoss := by
        rintro rfl
        cases after
      obtain ⟨y, came⟩ := orderly.exists_progress before
      have known := fits i run session y before came
      rcases p.goesOn?_cases e i run with ⟨wait, goes⟩ | other
      · obtain ⟨v, _, w, sees, seen, turn, reached⟩ := turn_step orderly permits goes
        cases reached.symm.trans progress
        cases (session?_of_outlook? sees (Option.isSome_of_mem before)).symm.trans before
        cases (session?_of_outlook? seen (Option.isSome_of_mem after)).symm.trans after
        exact turn.fits known.counts
      · cases (progress?_step orderly permits powered came other).symm.trans progress
        obtain ⟨_, same, fitting⟩ := session?_elsewhere (·.Fits x) permits powered other before
          known fun n f _ hears _ s => hears.fits s
        cases same.symm.trans after
        exact fitting

theorem fits_reachable {board : Board} {may : Scene → Event → Bool}
    (empty : board.center.subscriptions = [])
    (reachable : Reachable may (onBoard board) p) : p.Fits :=
  reachable.invariant (fun _ _ _ _ => nofun) fun _ _ before permits _ fits =>
    fits.step (tidy_reachable empty before) (orderly_reachable before) permits

/-- How the session of a run is decided, and what its system takes from data before and after. -/
structure DecidesOnce (p : Scene) (i run : Nat) (session : Session) : Prop where
  signals : session.signals = session.isDecided.toNat
  stays : ∀ e, p.permits e → e ≠ .powerLoss → session.isDecided → p.opens i run e = false →
    (p.step e).world.stage? i run = some session.stage
  /-- What has come leaves the permit, and the run that waits for it can go on. -/
  wakes : ∀ wait q, p.world.progress? i run = some (.waiting wait) → wait.question? = some q →
    q.holds session → session.permit ∧
      ∃ e, p.permits e ∧ p.goesOn? e = some (i, run, wait)
  refused : ∀ d data, p.world.devices[i]? = some d → p.world.Listens .easyLinkExtraData i run →
    session.isDecided = false → d.Refuses p.world.board.hardware data →
      let later := (p.step (.notify (.easyLinkExtraData data))).world
      later.stage? i run = some .failed ∧
        later.devices[i]? = some (d.modifySession run (·.finish false)) ∧
          later.board.flash = p.world.board.flash
  ignored : ∀ d n, p.world.devices[i]? = some d → n.isEasyLink → session.isDecided →
    (∀ other wait, p.world.progress? i other = some (.waiting wait) → other = run) →
      let later := (p.step (.notify n)).world
      later.devices[i]? = some d ∧ later.board.flash = p.world.board.flash

theorem session_of_session? (here : p.world.devices[i]? = some d)
    (known : p.world.session? i run = some session) :
    run < d.runs.length ∧ d.session run = session := by
  obtain ⟨_, same, r, listed, rfl⟩ := session?_eq_some.mp known
  cases here.symm.trans same
  exact ⟨(List.getElem?_eq_some_iff.mp listed).1, by simp [Device.session, listed]⟩

theorem stays_decided {stage : Stage} (orderly : p.world.Orderly) (permits : p.permits e)
    (powered : e ≠ .powerLoss) (known : p.world.stage? i run = some stage)
    (decided : stage ≠ .pending) (closed : p.opens i run e = false) :
    (p.step e).world.stage? i run = some stage := by
  rcases p.goesOn?_cases e i run with ⟨wait, goes⟩ | other
  · obtain ⟨v, x, w, -, before, after, -, said, turn⟩ := attends_step orderly permits goes
    cases known.symm.trans before
    cases turn.attends with
    | renews calls more opened _ _ =>
        cases List.append_cancel_left (said.symm.trans more)
        have opens : p.opens i run e = true := opened
        cases opens.symm.trans closed
    | keeps calls _ _ kept _ _ => rw [after, kept]
  · exact stage?_decided permits powered other known decided

/-- A run that waits finds the permit, and goes on. -/
theorem goesOn_of_permit {wait : RunWait} (orderly : p.world.Orderly)
    (progress : p.world.progress? i run = some (.waiting wait))
    (known : p.world.session? i run = some session) (permit : session.permit) :
    ∃ e, p.permits e ∧ p.goesOn? e = some (i, run, wait) := by
  obtain ⟨d, here, waits⟩ := orderly.progress?_waiting.mp progress
  have found : (run, wait) ∈ p.world.waits i := by simp [waits]
  obtain ⟨⟨j, t⟩, task, own⟩ := List.mem_filterMap.mp found
  obtain ⟨rfl, run?⟩ := Option.ite_none_right_eq_some.mp own
  obtain ⟨k, task⟩ := List.mem_iff_getElem?.mp task
  cases Task.eq_of_run? run?
  refine ⟨.resume k, ?_, goesOn?_eq_some.mpr ⟨k, rfl, task⟩⟩
  have permit : (d.session run).permit := (session_of_session? here known).2 ▸ permit
  cases wait <;> simp [Scene.permits, task, World.isReady, here, Task.isReady, permit]

theorem decidesOnce_of_fits {x : Progress} (tidy : p.world.Tidy) (orderly : p.world.Orderly)
    (known : p.world.session? i run = some session) (progress : p.world.progress? i run = some x)
    (fits : session.Fits x) : p.DecidesOnce i run session where
  signals := fits.counts
  stays e permits powered decided closed := by
    have stage : p.world.stage? i run = some session.stage := by
      rw [World.stage?_eq, known, Option.map_some]
    have decided : session.stage ≠ .pending := by simpa [Session.isDecided] using decided
    exact stays_decided orderly permits powered stage decided closed
  wakes wait q waits asks holds := by
    cases progress.symm.trans waits
    have permit := fits.wakes wait rfl q asks holds
    exact ⟨permit, goesOn_of_permit orderly waits known permit⟩
  refused d data here listens undecided refuses := by
    obtain ⟨inside, rfl⟩ := session_of_session? here known
    have alone (other : Nat) (hears : p.world.Listens .easyLinkExtraData i other) :
        other = run := by
      obtain ⟨wait, waits⟩ := tidy.waits_of_listens orderly listens
      obtain ⟨_, same⟩ := tidy.waits_of_listens orderly hears
      cases waits.symm.trans same
      rfl
    obtain ⟨device, flash⟩ := dispatch_refused here listens alone inside undecided refuses
    refine ⟨World.stage?_eq_some.mpr ⟨_, device, ?_⟩, device, flash⟩
    have listed := List.getElem?_eq_getElem inside
    refine ⟨{ d.runs[run] with session := d.runs[run].session.finish false }, ?_, ?_⟩
    · simp [Device.modifySession, Device.modifyRun, listed]
    · have undecided : d.runs[run].session.isDecided = false := by
        simpa [Device.session, listed] using undecided
      simp [Session.finish, undecided]
  ignored d n here easyLink decided alone := by
    obtain ⟨-, rfl⟩ := session_of_session? here known
    have spares : Spares i p.world (p.world.dispatch n) := by
      refine spares_dispatch easyLink here fun other hears => ?_
      obtain ⟨wait, waits⟩ := tidy.waits_of_listens orderly hears
      cases alone other wait (orderly.progress?_waiting.mpr ⟨d, here, waits⟩)
      exact decided
    exact ⟨spares.device.trans here, spares.flash⟩

/-- A session is decided once, by whatever decides it first, and the task that waits for the answer
is woken, in whatever order callbacks and task move. In a running system, it takes nothing from data
that come after the decision, and nothing but the decision from data that cannot be used. -/
theorem decides_once :
    (∀ moves w, Waiter.start.run moves = some w → Waiter.Answers (Waiter.decisions moves) w ∧
      ∀ q, w.stand = .asks q ∨ w.stand = .parked q → q.holds w.session → w.raised = 0 →
        ∃ own ∈ [[Waiter.Move.look], [.wake, .look]], ∃ v, w.run own = some v ∧ v.stand = .busy) ∧
    ∀ board p, board.center.subscriptions = [] → Reachable always (onBoard board) p →
      ∀ i run session, p.world.session? i run = some session → p.DecidesOnce i run session := by
  constructor
  · intro moves w ran
    have answers : Waiter.Answers (Waiter.decisions moves) w := Waiter.Answers.start.run ran
    exact ⟨answers, fun q => answers.goesOn⟩
  · intro board p empty reachable i run session known
    have orderly := orderly_reachable reachable
    obtain ⟨x, progress⟩ := orderly.exists_progress known
    have fits := fits_reachable empty reachable i run session x known progress
    exact decidesOnce_of_fits (tidy_reachable empty reachable) orderly known progress fits

/-- The second decision comes too late. -/
def decidedTwice : List Waiter.Move :=
  [.ask .decision, .look, .finish true, .finish false, .wake, .look]

theorem decides_once_malformed :
    (∃ w, Waiter.start.run decidedTwice = some w ∧ w.session.stage = .succeeded ∧
      w.session.signals = 1 ∧ w.stand = .busy) ∧
    let p := (sample.step (.boot sampleOptions DeviceInfo.product false)).step (.resume 1)
    (p.step (.notify (.easyLinkExtraData []))).world.stage? 0 0 = some .failed := by
  constructor
  · have answers := (decides_once.1 decidedTwice _ rfl).1
    exact ⟨_, rfl, answers.stage, answers.signals, rfl⟩
  · intro p
    have reached : Reachable always sample p :=
      .step (.step .start rfl rfl) (by decide +kernel) rfl
    have pending : (p.world.session? 0 0).any fun s => s.isDecided = false := by decide +kernel
    have listens : p.world.Listens .easyLinkExtraData 0 0 := by decide +kernel
    obtain ⟨session, known, undecided⟩ := (Option.any_eq_true _ _).mp pending
    obtain ⟨d, here, -⟩ := session?_eq_some.mp known
    have once := decides_once.2 _ p rfl reached 0 0 session known
    have malformed : d.Refuses p.world.board.hardware [] := trivial
    exact (once.refused d [] here listens (of_decide_eq_true undecided) malformed).1

end Scene
end ConnectedDevice
