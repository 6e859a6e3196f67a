import ConnectedDevice.Proofs.Provisioning.Sessions

/-!
When a run counts as connected. Its session learns that the station is up whenever the run hears of
it, whether the network was asked for already or not. What matters is kept as the moments that the
run lives through, in order: sessions that open, networks that are asked for, and stations that come
up.
-/

namespace ConnectedDevice

open Provisioning (Progress)

inductive Moment where
  /-- a command that opens a session -/
  | opens
  /-- a command to join a network -/
  | joins
  /-- the run hears that the station is up -/
  | station
deriving DecidableEq, Repr

def Call.moment? (c : Call) : Option Moment :=
  match c.command with
  | .startDiscovery .. | .startSoftAp _ => some .opens
  | .connect _ => some .joins
  | _ => none

/-- The moments of one attempt, with the station coming up so often before the join and after. -/
def Moment.attempt (early late : Nat) : List Moment :=
  .opens :: (List.replicate early .station ++ .joins :: List.replicate late .station)

theorem Moment.getLast?_attempt (past : List Moment) (early : Nat) {late : Nat} (heard : late ≠ 0) :
    (past ++ attempt early late).getLast? = some .station := by
  obtain ⟨late, rfl⟩ := Nat.exists_eq_succ_of_ne_zero heard
  have split : past ++ attempt early (late + 1) =
      past ++ .opens :: (List.replicate early .station ++ .joins :: List.replicate late .station) ++
        [.station] := by simp [attempt, List.replicate_succ']
  rw [split, List.getLast?_concat]

namespace Provisioning

/-- What a run has lived through when it came so far, with whether its session is connected. -/
inductive Lived : List Moment → Bool → Progress → Prop
  | discovering {number : Nat} {before : SystemConfig} (past : List Moment) (early : Nat) :
      Lived (past ++ .opens :: List.replicate early .station) (early != 0)
        (.waiting (.discovering number before))
  | joining {number due : Nat} {before : SystemConfig} (past : List Moment) (late : Nat) :
      Lived (past ++ Moment.attempt 0 late) (late != 0) (.waiting (.joining number due before))
  | connected (past : List Moment) (early late : Nat) : (late ≠ 0 ↔ early = 0) →
      Lived (past ++ Moment.attempt early late) true (.ended .connected)
  | elsewhere {moments : List Moment} {connected : Bool} {x : Progress} :
      x.isAttempt = false → Lived moments connected x

variable {before : SystemConfig} {v w : Outlook} {x : Progress} {wait : RunWait}
  {moments : List Moment} {calls : List Call}

theorem Lived.station {connected : Bool} (lived : Lived moments connected (.waiting wait)) :
    Lived (moments ++ [.station]) true (.waiting wait) := by
  have further (n : Nat) : List.replicate n Moment.station ++ [.station] =
      List.replicate (n + 1) .station := List.replicate_succ'.symm
  cases lived with
  | discovering past early =>
      rw [List.append_assoc, List.cons_append, further]
      exact .discovering past (early + 1)
  | joining past late =>
      have joins : Moment.attempt 0 late ++ [.station] = Moment.attempt 0 (late + 1) := by
        simp [Moment.attempt, further]
      rw [List.append_assoc, joins]
      exact .joining past (late + 1)
  | elsewhere other => exact .elsewhere other

theorem Opens.isAttempt (opens : Opens before v x w) : x.isAttempt = false := by
  cases opens with
  | opens _ => rfl
  | refused _ backs => simp [Progress.isAttempt, backs.silent.2.1]

theorem Fails.isAttempt (fails : Fails before v x w) : x.isAttempt = false := by
  cases fails with
  | opens _ opens => exact opens.isAttempt
  | backs _ backs => simp [Progress.isAttempt, backs.silent.2.1]

theorem Tries.lived {method : DiscoveryMethod} {number : Nat}
    (tries : Tries before method number v x w) (said : w.calls = v.calls ++ calls)
    (moments : List Moment) :
    Lived (moments ++ calls.filterMap (·.moment?)) w.session.connected x := by
  cases tries with
  | discovers _ =>
      cases List.append_cancel_left said
      have fresh : (v.discovering method).session.connected = false := by
        simp only [Outlook.discovering, Outlook.say, Outlook.withSession]
        split <;> rfl
      rw [fresh]
      exact .discovering moments 0
  | fails _ fails => exact .elsewhere fails.isAttempt

theorem Begins.lived (begins : Begins v x w) (said : w.calls = v.calls ++ calls) :
    Lived (moments ++ calls.filterMap (·.moment?)) w.session.connected x := by
  cases begins with
  | unloaded _ | joins _ _ => exact .elsewhere rfl
  | opens _ _ opens | opensWithout _ _ _ opens => exact .elsewhere opens.isAttempt
  | tries _ _ _ tries => exact tries.lived said moments

theorem Wakes.lived (wakes : Wakes v wait x w) (said : w.calls = v.calls ++ calls)
    (lived : Lived moments v.session.connected (.waiting wait)) :
    Lived (moments ++ calls.filterMap (·.moment?)) w.session.connected x := by
  have silent (same : w.calls = v.calls) : moments ++ calls.filterMap (·.moment?) = moments := by
    have nothing : calls = [] := by simpa [same] using said
    simp [nothing]
  cases wakes with
  | pending _ =>
      rw [silent rfl]
      generalize v.session.connected = connected at lived
      cases lived with
      | discovering past early => exact .discovering past early
      | elsewhere other => cases other
  | early _ _ =>
      rw [silent rfl]
      generalize v.session.connected = connected at lived
      cases lived with
      | joining past late => exact .joining past late
      | elsewhere other => cases other
  | failed _ fails | unloaded _ _ fails | lateWithout _ _ _ fails =>
      exact .elsewhere fails.isAttempt
  | served _ | serves _ => exact .elsewhere rfl
  | late _ _ _ tries => exact tries.lived said moments
  -- The session answers at once if the station came up before the network was asked for.
  | @joins number before st _ _ =>
      cases List.append_cancel_left said
      have same : ((v.save st.joining).say (.connect (.normal st.joining.system))).session =
          v.session := rfl
      rw [same]
      generalize v.session.connected = connected at lived
      cases lived with
      | discovering past early =>
          have asked : past ++ .opens :: List.replicate early .station ++ [.joins] =
              past ++ Moment.attempt early 0 := by simp [Moment.attempt]
          simp only [List.filterMap_cons, Call.moment?, List.filterMap_nil, asked]
          by_cases before : early = 0
          · subst before
            exact .joining past 0
          · simp only [bne_iff_ne.mpr before, if_true]
            exact .connected past early 0 (by simp [before])
      | elsewhere other => cases other
  | joined connected =>
      rw [silent rfl, connected]
      generalize v.session.connected = answered at lived connected
      cases lived with
      | joining past late =>
          have heard : late ≠ 0 := bne_iff_ne.mp connected
          exact .connected past 0 late (by simp [heard])
      | elsewhere other => cases other

/-- What a step of a run adds to what it lived through. -/
theorem Turn.lived (turn : Turn v wait x w) (said : w.calls = v.calls ++ calls)
    (lived : Lived moments v.session.connected (.waiting wait)) :
    Lived (moments ++ calls.filterMap (·.moment?)) w.session.connected x := by
  cases turn with
  | begins begins => exact begins.lived said
  | ends _ _ => exact .elsewhere rfl
  | wakes _ _ wakes => exact wakes.lived (v := v.woken) said lived

/-- A run that waits for its network after a step has not heard that the station is up. -/
theorem Turn.unconnected {number due : Nat}
    (turn : Turn v wait (.waiting (.joining number due before)) w) :
    w.session.connected = false := by
  generalize same : Progress.waiting (.joining number due before) = x at turn
  have nobody (attempt : x.isAttempt = false) : w.session.connected = false := by
    simp [← same, Progress.isAttempt] at attempt
  have undiscovered {method : DiscoveryMethod} {n : Nat} {b : SystemConfig} {u : Outlook}
      (tries : Tries b method n u x w) : w.session.connected = false := by
    cases tries with
    | discovers _ => cases same
    | fails _ fails => exact nobody fails.isAttempt
  cases turn with
  | begins begins =>
      cases begins with
      | unloaded _ | joins _ _ => cases same
      | opens _ _ opens | opensWithout _ _ _ opens => exact nobody opens.isAttempt
      | tries _ _ _ tries => exact undiscovered tries
  | ends _ _ => cases same
  | wakes _ _ wakes =>
      cases wakes with
      | failed _ fails | unloaded _ _ fails | lateWithout _ _ _ fails =>
          exact nobody fails.isAttempt
      | late _ _ _ tries => exact undiscovered tries
      | joins _ _ =>
          split at same
          · cases same
          next missing => exact (Bool.not_eq_true _).mp missing
      | early missing _ => exact missing
      | _ => cases same

end Provisioning

/-! Notifications -/

@[simp]
theorem Session.connected_finish (s : Session) (success : Bool) :
    (s.finish success).connected = s.connected := by
  unfold finish
  split <;> rfl

theorem Notification.Hears.connected {n : Notification} {f : Session → Session} (hears : n.Hears f)
    (other : n ≠ .wifiStatusChanged .stationUp) (s : Session) :
    (f s).connected = s.connected := by
  cases hears with
  | connect => exact absurd rfl other
  | _ => exact s.connected_finish _

theorem Provisioning.runs_stationUp {run : Nat} {s : Site} :
    (handle run (.wifiStatusChanged .stationUp) s).2.device.runs =
      (s.device.modifySession run (·.connect)).runs := by
  have same : (Act.reannounce .station s).2.device = s.device := rfl
  simp only [handle, onStatus]
  rw [Act.bind_apply, Act.device_bind, same]
  cases s.device.store.loaded <;> rfl

namespace World

variable {w u : World} {i run : Nat}

def Counts (inv : Session → Prop) (run : Nat) (d : Device) (_ : List (Nat × RunWait)) : Prop :=
  ∃ r, d.runs[run]? = some r ∧ inv r.session

theorem session?_of_holds {inv : Session → Prop} (holds : w.Holds i (Counts inv run)) :
    ∃ s, w.session? i run = some s ∧ inv s := by
  obtain ⟨d, here, r, listed, known⟩ := holds
  exact ⟨_, session?_eq_some.mpr ⟨d, here, r, listed, rfl⟩, known⟩

theorem counts_call {inv : Session → Prop} {n : Notification} (h : Handler)
    (keeps : ∀ f, n.Hears f → ∀ s, inv s → inv (f s)) (holds : u.Holds i (Counts inv run)) :
    (call n u h).Holds i (Counts inv run) := by
  let listens (i run : Nat) : Prop := h = .provisioning i run
  have path : u.Path (fun i => n.May (listens i)) (call n u h) :=
    Path.refl.call (fun _ _ => id) fun _ _ => id
  refine holds.path ((Device.session_kept run inv).mono fun deed may f same => ?_) path
  subst same
  cases may with
  | session hears _ => exact keeps f hears

theorem counts_stationUp (holds : u.Holds i (Counts (fun _ => True) run)) :
    (call (.wifiStatusChanged .stationUp) u (.provisioning i run)).Holds i
      (Counts (·.connected) run) := by
  obtain ⟨d, here, r, listed, -⟩ := holds
  refine ⟨_, devices_run _ here, { r with session := r.session.connect }, ?_, rfl⟩
  rw [Provisioning.runs_stationUp]
  simp [Device.modifySession, Device.modifyRun, listed]

/-- A run that hears of the station takes itself for connected. -/
theorem counts_dispatch (holds : w.Holds i (Counts (fun _ => True) run))
    (listens : w.Listens .wifiStatusChanged i run) :
    (w.dispatch (.wifiStatusChanged .stationUp)).Holds i (Counts (·.connected) run) := by
  refine dispatch_reaches (·.Holds i (Counts (fun _ => True) run))
    (·.Holds i (Counts (·.connected) run)) holds listens
      (fun _ _ => counts_call _ fun _ _ _ _ => trivial) counts_stationUp
        fun _ => counts_call _ fun f hears s connected => ?_
  cases hears
  rfl

end World

namespace Scene

variable {p q : Scene} {e : Event} {i run : Nat} {wait : RunWait} {x : Progress}

open World

def hearsStation (p : Scene) (i run : Nat) : Event → Bool
  | .notify (.wifiStatusChanged .stationUp) => decide (p.world.Listens .wifiStatusChanged i run)
  | _ => false

def momentsIn (p : Scene) (i run : Nat) (e : Event) : List Moment :=
  if p.hearsStation i run e then [.station] else (p.callsIn i run e).filterMap (·.moment?)

/-- What the run lives through in some events, in order. -/
def moments (p : Scene) (i run : Nat) : List Event → List Moment
  | [] => []
  | e :: events => p.momentsIn i run e ++ (p.step e).moments i run events

theorem moments_concat {events : List Event} (ran : p.run powered events = some q) :
    p.moments i run (events ++ [e]) = p.moments i run events ++ q.momentsIn i run e := by
  induction events generalizing p with
  | nil =>
      cases ran
      simp [moments]
  | cons f events ih =>
      obtain ⟨-, -, ran⟩ := run_cons ran
      simp [moments, ih ran]

theorem hearsStation_iff : p.hearsStation i run e ↔
    e = .notify (.wifiStatusChanged .stationUp) ∧ p.world.Listens .wifiStatusChanged i run := by
  unfold hearsStation
  split
  next => simp
  next other => exact ⟨nofun, fun ⟨same, _⟩ => absurd same other⟩

theorem session?_heard (hears : p.hearsStation i run e)
    (known : (p.world.session? i run).isSome) :
    ∃ s, (p.step e).world.session? i run = some s ∧ s.connected := by
  obtain ⟨rfl, listens⟩ := hearsStation_iff.mp hears
  obtain ⟨_, known⟩ := Option.isSome_iff_exists.mp known
  obtain ⟨d, here, r, listed, -⟩ := session?_eq_some.mp known
  exact session?_of_holds (counts_dispatch ⟨d, here, r, listed, trivial⟩ listens)

theorem session?_unheard {session : Session} (permits : p.permits e) (powered : e ≠ .powerLoss)
    (other : ∀ wait, p.goesOn? e ≠ some (i, run, wait)) (deaf : p.hearsStation i run e = false)
    (known : p.world.session? i run = some session) :
    ∃ s, (p.step e).world.session? i run = some s ∧ s.connected = session.connected := by
  refine session?_elsewhere (·.connected = session.connected) permits powered other known rfl
    fun n f same hears listens s kept => ?_
  rw [hears.connected, kept]
  rintro rfl
  exact absurd (hearsStation_iff.mpr ⟨same, listens⟩) (by simp [deaf])

/-- The run waits, and what it has lived through says where. -/
structure Lives (p : Scene) (i run : Nat) (moments : List Moment) (wait : RunWait) : Prop where
  orderly : p.world.Orderly
  progress : p.world.progress? i run = some (.waiting wait)
  lived : ∃ s, p.world.session? i run = some s ∧
    Provisioning.Lived moments s.connected (.waiting wait)

theorem Lives.start (orderly : p.world.Orderly)
    (starts : p.world.progress? i run = some (.waiting .start)) : p.Lives i run [] .start := by
  obtain ⟨d, here, waits⟩ := orderly.progress?_waiting.mp starts
  have last := (orderly.device here).last run (by simp [waits])
  have known : run < d.runs.length := by
    rw [Device.ledger, List.length_map] at last
    omega
  refine ⟨orderly, starts, (d.runs[run]).session, ?_, .elsewhere rfl⟩
  exact session?_eq_some.mpr ⟨d, here, _, List.getElem?_eq_getElem known, rfl⟩

/-- A step of the run itself. -/
theorem Lives.turn {moments : List Moment} (lives : p.Lives i run moments wait)
    (permits : p.permits e) (goes : p.goesOn? e = some (i, run, wait)) : ∃ x s,
      (p.step e).world.progress? i run = some x ∧ (p.step e).world.session? i run = some s ∧
        Provisioning.Lived (moments ++ p.momentsIn i run e) s.connected x ∧
          ∀ number due before, x = .waiting (.joining number due before) → s.connected = false := by
  obtain ⟨orderly, progress, s, known, lived⟩ := lives
  obtain ⟨v, x, w, before, after, turn, progress⟩ := turn_step orderly permits goes
  have stays := session?_step permits (ne_powerLoss_of_goesOn? goes) (Option.isSome_of_mem known)
  cases (session?_of_outlook? before (Option.isSome_of_mem known)).symm.trans known
  obtain ⟨calls, said⟩ : ∃ calls, w.calls = v.calls ++ calls := by
    cases turn.attends with
    | renews calls said | keeps calls said => exact ⟨calls, said⟩
  have deaf : p.hearsStation i run e = false := by
    obtain ⟨k, rfl, -⟩ := goesOn?_eq_some.mp goes
    rfl
  have within : p.momentsIn i run e = calls.filterMap (·.moment?) := by
    simp [momentsIn, deaf, callsIn_of_goesOn? goes before after said]
  refine ⟨x, w.session, progress, session?_of_outlook? after stays, ?_, ?_⟩
  · rw [within]
    exact turn.lived said lived
  · rintro number due before rfl
    exact turn.unconnected

/-- In all other events the run says nothing, and so it lives through nothing but the station. -/
theorem Lives.elsewhere {moments : List Moment} (lives : p.Lives i run moments wait)
    (permits : p.permits e) (powered : e ≠ .powerLoss)
    (other : ∀ wait, p.goesOn? e ≠ some (i, run, wait)) :
    (p.step e).Lives i run (moments ++ p.momentsIn i run e) wait := by
  obtain ⟨orderly, progress, session, known, lived⟩ := lives
  refine ⟨orderly_step orderly permits, progress?_step orderly permits powered progress other, ?_⟩
  cases hears : p.hearsStation i run e with
  | true =>
      obtain ⟨s, after, connected⟩ := session?_heard hears (Option.isSome_of_mem known)
      refine ⟨s, after, ?_⟩
      simpa [momentsIn, hears, connected] using lived.station
  | false =>
      obtain ⟨s, after, same⟩ := session?_unheard permits powered other hears known
      refine ⟨s, after, ?_⟩
      simpa [momentsIn, hears, callsIn_of_other other, same] using lived

theorem progress?_ended_events {o : Outcome} {events : List Event} (orderly : p.world.Orderly)
    (ended : p.world.progress? i run = some (.ended o)) (ran : p.run powered events = some q) :
    q.world.progress? i run = some (.ended o) := by
  induction events generalizing p with
  | nil =>
      cases ran
      exact ended
  | cons e events ih =>
      obtain ⟨permits, quiet, ran⟩ := run_cons ran
      have other (wait : RunWait) : p.goesOn? e ≠ some (i, run, wait) := by
        intro goes
        cases (progress?_of_goesOn? orderly goes).symm.trans ended
      have later := progress?_step orderly permits (ne_of_powered quiet) ended other
      exact ih (orderly_step orderly permits) later ran

theorem Lives.events {moments : List Moment} {next : RunWait} {events : List Event}
    (lives : p.Lives i run moments wait) (ran : p.run powered events = some q)
    (waits : q.world.progress? i run = some (.waiting next)) :
    q.Lives i run (moments ++ p.moments i run events) next := by
  induction events generalizing p moments wait with
  | nil =>
      cases ran
      cases lives.progress.symm.trans waits
      simpa [Scene.moments] using lives
  | cons e events ih =>
      obtain ⟨permits, quiet, ran⟩ := run_cons ran
      have powered := ne_of_powered quiet
      rw [Scene.moments, ← List.append_assoc]
      rcases p.goesOn?_cases e i run with ⟨wait', goes⟩ | other
      · cases (progress?_of_goesOn? lives.orderly goes).symm.trans lives.progress
        have later := orderly_step lives.orderly permits
        obtain ⟨x, s, progress, known, lived, -⟩ := lives.turn permits goes
        cases x with
        | waiting wait => exact ih ⟨later, progress, s, known, lived⟩ ran
        -- A run that ended does not wait again.
        | ended o => cases (progress?_ended_events later progress ran).symm.trans waits
      · exact ih (lives.elsewhere permits powered other) ran

/-- When a step of a run leaves a network asked for, the run has ended as connected exactly if it
heard that the station is up since it opened its session, and that was after it asked for the
network exactly if it was not before. -/
theorem connected_by_station {board : Board} {events : List Event}
    (reachable : Reachable always (onBoard board) p)
    (starts : p.world.progress? i run = some (.waiting .start))
    (ran : p.run powered events = some q) (permits : q.permits e)
    (goes : q.goesOn? e = some (i, run, wait))
    (progress : (q.step e).world.progress? i run = some x) (joined : x.hasJoined) :
    ∃ past early late,
      p.moments i run (events ++ [e]) = past ++ Moment.attempt early late ∧
        (x = .ended .connected ↔ early ≠ 0 ∨ late ≠ 0) ∧
          (x = .ended .connected → (late ≠ 0 ↔ early = 0)) := by
  have orderly := orderly_reachable reachable
  have waits := progress?_of_goesOn? (orderly_run orderly ran) goes
  have lives := (Lives.start orderly starts).events ran waits
  obtain ⟨y, s, same, -, lived, unheard⟩ := lives.turn permits goes
  cases progress.symm.trans same
  rw [List.nil_append, ← moments_concat ran] at lived
  generalize p.moments i run (events ++ [e]) = moments at lived ⊢
  generalize s.connected = connected at lived unheard
  cases lived with
  | discovering _ _ => cases joined
  | joining past late =>
      have missing : late = 0 := by simpa using unheard _ _ _ rfl
      exact ⟨past, 0, late, rfl, by simp [missing], nofun⟩
  | connected past early late exactly =>
      refine ⟨past, early, late, rfl, ?_, fun _ => exactly⟩
      have heard : early ≠ 0 ∨ late ≠ 0 := by
        by_cases before : early = 0
        · exact .inr (exactly.mpr before)
        · exact .inl before
      simp [heard]
  | elsewhere other =>
      simp [Provisioning.Progress.isAttempt_of_hasJoined joined] at other

set_option maxRecDepth 4000 in
theorem connected_by_station_joining :
    let p := sample.step (.boot sampleOptions DeviceInfo.product false)
    let events := joining.drop 1 ++ [.notify (.wifiStatusChanged .stationUp)]
    ∃ q ∈ p.run powered events,
      (q.step (.resume 1)).world.progress? 0 0 = some (.ended .connected) ∧
      (∃ past early late,
        p.moments 0 0 (events ++ [.resume 1]) = past ++ Moment.attempt early late ∧
          (late ≠ 0 ↔ early = 0)) ∧
        p.moments 0 0 (events ++ [.resume 1]) = [.opens, .joins, .station] := by
  intro p events
  have booted : Reachable always sample p := .step .start rfl rfl
  have starts : p.world.progress? 0 0 = some (.waiting .start) := by decide +kernel
  have ran : (p.run powered events).any fun q => q.permits (.resume 1) ∧
      ((q.goesOn? (.resume 1)).any fun x => x.1 = 0 ∧ x.2.1 = 0) ∧
        (q.step (.resume 1)).world.progress? 0 0 = some (.ended .connected) := by
    decide +kernel
  obtain ⟨q, ran, known⟩ := (Option.any_eq_true _ _).mp ran
  obtain ⟨permits, goes, progress⟩ := of_decide_eq_true known
  obtain ⟨⟨i, run, wait⟩, goes, same⟩ := (Option.any_eq_true _ _).mp goes
  obtain ⟨rfl, rfl⟩ := of_decide_eq_true same
  obtain ⟨past, early, late, lived, -, exactly⟩ :=
    connected_by_station booted starts ran permits goes progress rfl
  exact ⟨q, ran, progress, ⟨past, early, late, lived, exactly rfl⟩, by decide +kernel⟩

/-- The station comes up before the credentials arrive, and never again. -/
def earlyStation : List Event :=
  [.boot sampleOptions DeviceInfo.product false, .resume 1, .notify (.wifiStatusChanged .stationUp),
    .notify (.easyLinkCompleted (some ⟨"Home", "secret"⟩)),
    .notify (.easyLinkExtraData [0x23, 1, 0, 0, 0]), .resume 1]

set_option maxRecDepth 4000 in
theorem earlyStation_connects : ¬∀ events q, sample.run powered events = some q →
    q.world.progress? 0 0 = some (.ended .connected) → ∃ past early late,
      sample.moments 0 0 events = past ++ Moment.attempt early late ∧ late ≠ 0 := by
  intro always
  have ran : (sample.run powered earlyStation).any fun q =>
      q.world.progress? 0 0 = some (.ended .connected) := by
    decide +kernel
  have lived : sample.moments 0 0 earlyStation = [.opens, .station, .joins] := by decide +kernel
  obtain ⟨q, ran, connected⟩ := (Option.any_eq_true _ _).mp ran
  obtain ⟨past, early, late, same, heard⟩ := always _ q ran (of_decide_eq_true connected)
  have last := Moment.getLast?_attempt past early heard
  rw [← same, lived] at last
  cases last

end Scene
end ConnectedDevice
