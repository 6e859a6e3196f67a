import ConnectedDevice.Proofs.Provisioning.Sessions

/-!
Which network a run joins. A session is decided well by extra data, with credentials before them or
without; only a method that knows no extra data waits for credentials. What the run heard is kept
beside the scene: the credentials accepted last, whether extra data came without any, and whether
the stored network was changed otherwise since.
-/

namespace ConnectedDevice

open Provisioning (Progress)

/-- What a run heard since it opened its session. -/
structure Heard where
  /-- accepted last -/
  credentials : Option Credentials
  /-- whether extra data decided the session without credentials -/
  bare : Bool
  /-- whether anything but credentials changed the stored network since -/
  overwritten : Bool

def Heard.nothing : Heard := ⟨none, false, false⟩

def JoinParams.network (p : JoinParams) : Credentials := ⟨p.ssid, p.key⟩

def Call.join? (c : Call) : Option JoinParams :=
  match c.command with
  | .connect params => some params
  | _ => none

def Event.isExtraData : Event → Bool
  | .notify (.easyLinkExtraData _) => true
  | _ => false

theorem Settings.network_joining (st : Settings) :
    (JoinParams.normal st.joining.system).network = st.system.network := by
  simp only [joining, system, modifySystem, SystemConfig.advance]
  split <;> rfl

/-- A join takes what is stored, once the session was decided well. -/
theorem Provisioning.Turn.joins {v w : Outlook} {wait : RunWait} {x : Progress} {calls : List Call}
    {params : JoinParams} (turn : Turn v wait x w) (joined : x.hasJoined)
    (said : w.calls = v.calls ++ calls) (found : calls.findSome? (·.join?) = some params) :
    (Progress.waiting wait).isAttempt ∧ v.session.stage = .succeeded ∧
      ∃ st, v.settings = some st ∧ params.network = st.system.network := by
  have nobody {P : Prop} (attends : Attends v.woken .start x w) : P := by
    simp [attends.unjoined] at joined
  have silent {P : Prop} (same : w.calls = v.calls) : P := by
    have nothing : calls = [] := by simpa [same] using said
    simp [nothing] at found
  cases turn with
  | begins begins => simp [begins.attends.unjoined] at joined
  | ends _ _ => cases joined
  | wakes _ _ wakes =>
      cases wakes with
      | failed _ fails | unloaded _ _ fails | lateWithout _ _ _ fails => exact nobody fails.attends
      | late _ _ _ tries => exact nobody tries.attends
      | @joins _ _ st succeeded loaded =>
          refine ⟨rfl, succeeded, st, loaded, ?_⟩
          cases List.append_cancel_left said
          cases found
          exact st.network_joining
      | _ => exact silent rfl

namespace Scene

def network? (p : Scene) (i : Nat) : Option Credentials :=
  (p.world.settings? i).map (·.system.network)

/-- The credentials that the run accepts in the event. -/
def accepts? (p : Scene) (i run : Nat) : Event → Option Credentials
  | .notify (.easyLinkCompleted (some c)) =>
    if p.world.Listens .easyLinkCompleted i run ∧ p.world.stage? i run = some .pending ∧
      (p.world.settings? i).isSome then some c else none
  | _ => none

/-- Extra data decide the session of the run well. -/
def decidesByExtraData (p : Scene) (i run : Nat) (e : Event) : Bool :=
  e.isExtraData && p.world.stage? i run = some .pending &&
    (p.step e).world.stage? i run = some .succeeded

def hear (p : Scene) (i run : Nat) (e : Event) (h : Heard) : Heard :=
  match p.accepts? i run e with
  | some c => { h with credentials := some c, overwritten := false }
  | none =>
    { h with
      bare := h.bare || h.credentials.isNone && p.decidesByExtraData i run e
      overwritten := h.overwritten || p.network? i ≠ (p.step e).network? i }

def opens (p : Scene) (i run : Nat) (e : Event) : Bool :=
  (p.callsIn i run e).any (·.opensSession)

/-- Whoever opens a session has heard nothing in it. -/
def hearing (p : Scene) (i run : Nat) (e : Event) (before : Option Heard) : Option Heard :=
  if p.opens i run e then some .nothing else before.map (p.hear i run e)

/-- What the run heard after some events more, if it opened a session before or in them. -/
def heard (p : Scene) (i run : Nat) (before : Option Heard) : List Event → Option Heard
  | [] => before
  | e :: events => (p.step e).heard i run (p.hearing i run e before) events

/-- The network that the run joins in the event. -/
def joins? (p : Scene) (i run : Nat) (e : Event) : Option JoinParams :=
  if ((p.step e).world.progress? i run).any (·.hasJoined) then
    (p.callsIn i run e).findSome? (·.join?)
  else none

end Scene

/-- What was heard is in accord with how the session is decided and with the stored network. -/
structure Heard.Agrees (h : Heard) (stage : Stage) (network : Option Credentials) : Prop where
  undecided : stage = .pending → h.bare = false
  succeeded : stage = .succeeded → (h.credentials.isSome ↔ h.bare = false)
  network : h.overwritten = false → ∀ c ∈ h.credentials, network = some c.limited

namespace Scene

variable {p q : Scene} {e : Event} {i run : Nat} {stage later : Stage} {h : Heard}

theorem accepts?_eq_some {c : Credentials} : p.accepts? i run e = some c ↔
    e = .notify (.easyLinkCompleted (some c)) ∧ p.world.Listens .easyLinkCompleted i run ∧
      p.world.stage? i run = some .pending ∧ (p.world.settings? i).isSome := by
  constructor
  · intro accepts
    unfold accepts? at accepts
    split at accepts
    next c =>
      split at accepts
      next can => cases accepts; exact ⟨rfl, can⟩
      next => cases accepts
    next => cases accepts
  · rintro ⟨rfl, can⟩
    simp only [accepts?, if_pos can]

/-- How an event decides a session, with what it brings. -/
structure Decides (p : Scene) (i run : Nat) (e : Event) (stage later : Stage) : Prop where
  before : p.world.stage? i run = some stage
  after : (p.step e).world.stage? i run = some later
  accepted : ∀ c ∈ p.accepts? i run e, (p.step e).network? i = some c.limited
  decided : stage ≠ .pending → later = stage
  succeeds : p.accepts? i run e = none → stage = .pending → later = .succeeded → e.isExtraData

theorem Decides.agrees (decides : p.Decides i run e stage later)
    (agrees : h.Agrees stage (p.network? i)) :
    (p.hear i run e h).Agrees later ((p.step e).network? i) := by
  cases accepts : p.accepts? i run e with
  | some c =>
      obtain ⟨-, -, pending, -⟩ := accepts?_eq_some.mp accepts
      cases pending.symm.trans decides.before
      have bare := agrees.undecided rfl
      have network := decides.accepted c accepts
      simp only [hear, accepts]
      exact ⟨fun _ => bare, fun _ => by simp [bare], fun _ _ same => by cases same; exact network⟩
  | none =>
      simp only [hear, accepts]
      have network : (h.overwritten || decide (p.network? i ≠ (p.step e).network? i)) = false →
          ∀ c ∈ h.credentials, (p.step e).network? i = some c.limited := by
        intro kept c given
        obtain ⟨kept, same⟩ := Bool.or_eq_false_iff.mp kept
        have same : p.network? i = (p.step e).network? i := by simpa using same
        exact same ▸ agrees.network kept c given
      by_cases pending : stage = .pending
      · subst pending
        have bare := agrees.undecided rfl
        refine ⟨?_, ?_, network⟩
        · rintro rfl
          simp [bare, decidesByExtraData, decides.after]
        · rintro rfl
          have extra := decides.succeeds accepts rfl rfl
          simp [bare, decidesByExtraData, decides.before, decides.after, extra]
      · cases decides.decided pending
        have other : p.decidesByExtraData i run e = false := by
          simp [decidesByExtraData, decides.before, pending]
        refine ⟨fun same => absurd same pending, ?_, network⟩
        simpa [other] using agrees.succeeded

theorem settings?_isSome {w : World} : (w.settings? i).isSome ↔
    ∃ d, w.devices[i]? = some d ∧ d.store.loaded.isSome := by
  cases here : w.devices[i]? <;> simp [World.settings?, here]

theorem network?_accepted {c : Credentials} (accepts : p.accepts? i run e = some c) :
    (p.step e).network? i = some c.limited := by
  obtain ⟨rfl, listens, pending, loaded⟩ := accepts?_eq_some.mp accepts
  obtain ⟨d, here, r, listed, pending⟩ := World.stage?_eq_some.mp pending
  obtain ⟨_, same, loaded⟩ := settings?_isSome.mp loaded
  cases here.symm.trans same
  have awaits : p.world.Holds i fun d _ => d.Awaits run := ⟨d, here, loaded, r, listed, pending⟩
  obtain ⟨later, there, st, loaded, network⟩ := World.knows_dispatch (c := c) awaits listens
  simp [network?, Scene.step, World.settings?, there, loaded, network]

theorem stage?_step (permits : p.permits e) (powered : e ≠ .powerLoss)
    (known : (p.world.stage? i run).isSome) : ((p.step e).world.stage? i run).isSome := by
  rw [World.stage?_eq, Option.isSome_map] at known ⊢
  exact session?_step permits powered known

/-- Events that are not steps of the run. -/
theorem decides_of_other (permits : p.permits e) (powered : e ≠ .powerLoss)
    (other : ∀ wait, p.goesOn? e ≠ some (i, run, wait)) (loaded : (p.world.settings? i).isSome)
    (known : p.world.stage? i run = some stage) :
    ∃ later, p.Decides i run e stage later := by
  by_cases pending : stage = .pending
  · subst pending
    obtain ⟨later, after⟩ := Option.isSome_iff_exists.mp
      (stage?_step permits powered (Option.isSome_of_mem known))
    refine ⟨later, known, after, fun _ => network?_accepted, (absurd rfl ·), ?_⟩
    rintro deaf - rfl
    by_cases extra : e.isExtraData
    · exact extra
    have quiet (n : Notification) (same : e = .notify n) (listens : p.world.Listens n.kind i run) :
        n.brings = false := by
      subst same
      unfold Notification.brings
      split
      next c =>
        have accepts : p.accepts? i run (.notify (.easyLinkCompleted (some c))) = some c :=
          accepts?_eq_some.mpr ⟨rfl, listens, known, loaded⟩
        cases deaf.symm.trans accepts
      next => exact absurd rfl extra
      next => rfl
    obtain ⟨_, other, same⟩ := stage?_undecided permits powered other known (by simp) quiet
    cases after.symm.trans same
    exact absurd rfl other
  · have after := stage?_decided permits powered other known pending
    exact ⟨stage, known, after, fun _ => network?_accepted, fun _ => rfl,
      fun _ same => absurd same pending⟩

theorem stage?_of_outlook? {w : World} {v : Outlook} (sees : w.outlook? i run = some v)
    (known : (w.stage? i run).isSome) : w.stage? i run = some v.session.stage := by
  rw [World.stage?_eq, Option.isSome_map] at known
  rw [World.stage?_eq, session?_of_outlook? sees known, Option.map_some]

/-- A step of the run, which hears nothing in it. -/
theorem attends_step {wait : RunWait} (orderly : p.world.Orderly) (permits : p.permits e)
    (goes : p.goesOn? e = some (i, run, wait)) : ∃ v x w,
      (p.step e).world.progress? i run = some x ∧
        p.world.stage? i run = some v.session.stage ∧
          (p.step e).world.stage? i run = some w.session.stage ∧
            p.world.settings? i = v.settings ∧ w.calls = v.calls ++ p.callsIn i run e ∧
              Provisioning.Turn v wait x w := by
  obtain ⟨v, x, w, before, after, turn, progress⟩ := turn_step orderly permits goes
  obtain ⟨d, here, inside⟩ := known_of_goesOn? orderly goes
  have known : (p.world.stage? i run).isSome := by simp [World.stage?, here, inside]
  have powered := ne_powerLoss_of_goesOn? goes
  obtain ⟨calls, said⟩ : ∃ calls, w.calls = v.calls ++ calls := by
    cases turn.attends with
    | renews calls said | keeps calls said => exact ⟨calls, said⟩
  refine ⟨v, x, w, progress, stage?_of_outlook? before known,
    stage?_of_outlook? after (stage?_step permits powered known),
    World.settings?_of_outlook? before, ?_, turn⟩
  rw [callsIn_of_goesOn? goes before after said, said]

/-- The run attends to its session: what it heard since it opened one is in accord with it. -/
structure Attentive (p : Scene) (i run : Nat) (x : Progress) (heard : Option Heard) : Prop where
  orderly : p.world.Orderly
  loaded : (p.world.settings? i).isSome
  progress : p.world.progress? i run = some x
  attempt : x.isAttempt → heard.isSome
  joined : x.hasJoined → p.world.stage? i run = some .succeeded
  session : ∃ stage, p.world.stage? i run = some stage ∧
    ∀ h ∈ heard, h.Agrees stage (p.network? i)

theorem loaded_step (permits : p.permits e) (powered : e ≠ .powerLoss)
    (loaded : (p.world.settings? i).isSome) : ((p.step e).world.settings? i).isSome := by
  obtain ⟨d, here, loaded⟩ := settings?_isSome.mp loaded
  have kept : Kept (p.Does e i) fun d _ => d.store.loaded.isSome :=
    Device.loaded_kept.mono fun _ _ => trivial
  exact settings?_isSome.mpr (device_step permits powered kept here loaded)

variable {x : Progress} {before : Option Heard}

theorem decides_of_goesOn? {wait : RunWait} (goes : p.goesOn? e = some (i, run, wait))
    (known : p.world.stage? i run = some stage)
    (after : (p.step e).world.stage? i run = some stage) : p.Decides i run e stage stage where
  before := known
  after := after
  accepted c accepts := by
    obtain ⟨rfl, -⟩ := accepts?_eq_some.mp accepts
    cases goes
  decided _ := rfl
  succeeds _ pending succeeded := by cases pending.symm.trans succeeded

theorem Decides.hears (decides : p.Decides i run e stage later)
    (agrees : ∀ h ∈ before, h.Agrees stage (p.network? i)) :
    ∀ h ∈ before.map (p.hear i run e), h.Agrees later ((p.step e).network? i) := by
  intro h found
  obtain ⟨_, known, rfl⟩ := Option.map_eq_some_iff.mp found
  exact decides.agrees (agrees _ known)

theorem hearing_of_closed (closed : p.opens i run e = false) :
    p.hearing i run e before = before.map (p.hear i run e) := by simp [hearing, closed]

/-- A step of the run itself. -/
theorem Attentive.turn {wait : RunWait} (attentive : p.Attentive i run x before)
    (permits : p.permits e) (goes : p.goesOn? e = some (i, run, wait)) :
    ∃ y, (p.step e).Attentive i run y (p.hearing i run e before) := by
  obtain ⟨orderly, loaded, progress, attempt, joined, stage, known, agrees⟩ := attentive
  have later := orderly_step orderly permits
  have stays := loaded_step permits (ne_powerLoss_of_goesOn? goes) loaded
  cases (progress?_of_goesOn? orderly goes).symm.trans progress
  obtain ⟨v, y, w, progress, same, after, -, said, turn⟩ := attends_step orderly permits goes
  cases known.symm.trans same
  cases turn.attends with
  -- Nothing was heard yet in the session, and a turn that opens one joins nothing.
  | renews calls more opened unmet short =>
      cases List.append_cancel_left (said.symm.trans more)
      have opens : p.opens i run e = true := opened
      refine ⟨y, later, stays, progress, ?_, ?_, _, after, ?_⟩
      · simp [hearing, opens]
      · simp [short]
      · simp only [hearing, opens, if_true]
        rintro h ⟨⟩
        exact ⟨fun _ => rfl, fun succeeded => absurd succeeded unmet, fun _ => nofun⟩
  -- A run hears nothing in its own steps: the session is as decided as before.
  | keeps calls more closed kept attempts joins =>
      cases List.append_cancel_left (said.symm.trans more)
      have closed : p.opens i run e = false := closed
      have decides := decides_of_goesOn? goes known (kept ▸ after)
      refine ⟨y, later, stays, progress, ?_, ?_, _, decides.after, ?_⟩
      · rw [hearing_of_closed closed, Option.isSome_map]
        exact fun within => attempt (attempts within)
      · intro joining
        have succeeded : v.session.stage = .succeeded := by
          rcases joins joining with before | succeeded
          · exact Option.some.inj (known.symm.trans (joined before))
          · exact succeeded
        exact succeeded ▸ decides.after
      · rw [hearing_of_closed closed]
        exact decides.hears agrees

/-- In all other events the run says nothing, and so it opens no session either. -/
theorem Attentive.elsewhere (attentive : p.Attentive i run x before) (permits : p.permits e)
    (powered : e ≠ .powerLoss) (other : ∀ wait, p.goesOn? e ≠ some (i, run, wait)) :
    (p.step e).Attentive i run x (p.hearing i run e before) := by
  obtain ⟨orderly, loaded, progress, attempt, joined, stage, known, agrees⟩ := attentive
  have closed : p.opens i run e = false := by simp [opens, callsIn_of_other other]
  obtain ⟨next, decides⟩ := decides_of_other permits powered other loaded known
  refine ⟨orderly_step orderly permits, loaded_step permits powered loaded,
    progress?_step orderly permits powered progress other, ?_, ?_, next, decides.after, ?_⟩
  · rw [hearing_of_closed closed, Option.isSome_map]
    exact attempt
  · intro joining
    exact stage?_decided permits powered other (joined joining) (by simp)
  · rw [hearing_of_closed closed]
    exact decides.hears agrees

theorem Attentive.step (attentive : p.Attentive i run x before) (permits : p.permits e)
    (powered : e ≠ .powerLoss) :
    ∃ y, (p.step e).Attentive i run y (p.hearing i run e before) := by
  rcases p.goesOn?_cases e i run with ⟨wait, goes⟩ | other
  · exact attentive.turn permits goes
  · exact ⟨x, attentive.elsewhere permits powered other⟩

theorem Attentive.events {events : List Event} (attentive : p.Attentive i run x before)
    (ran : p.run powered events = some q) :
    ∃ y, q.Attentive i run y (p.heard i run before events) := by
  induction events generalizing p x before with
  | nil =>
      cases ran
      exact ⟨x, attentive⟩
  | cons e events ih =>
      obtain ⟨permits, quiet, ran⟩ := run_cons ran
      obtain ⟨y, attentive⟩ := attentive.step permits (ne_of_powered quiet)
      exact ih attentive ran

/-- What the run heard since `p` decides its sessions, and the networks that it joins. -/
structure FollowsHeard (p : Scene) (i run : Nat) (events : List Event) (q : Scene) : Prop where
  decided : ∀ h ∈ p.heard i run none events, q.world.stage? i run = some .succeeded →
    (h.credentials.isSome ↔ h.bare = false)
  joined : ∀ x ∈ q.world.progress? i run, x.hasJoined →
    ∃ h ∈ p.heard i run none events, (h.credentials.isSome ↔ h.bare = false)
  joins : ∀ e params, q.permits e → q.joins? i run e = some params →
    q.network? i = some params.network ∧ ∃ h ∈ p.heard i run none events,
      (h.credentials.isSome ↔ h.bare = false) ∧
        (h.overwritten = false → ∀ c ∈ h.credentials, params.network = c.limited)

theorem Attentive.heard {events : List Event}
    (attentive : q.Attentive i run x (p.heard i run none events)) (within : x.isAttempt)
    (succeeded : q.world.stage? i run = some .succeeded) :
    ∃ h ∈ p.heard i run none events, h.Agrees .succeeded (q.network? i) := by
  obtain ⟨h, known⟩ := Option.isSome_iff_exists.mp (attentive.attempt within)
  obtain ⟨_, same, agrees⟩ := attentive.session
  cases same.symm.trans succeeded
  exact ⟨h, known, agrees h known⟩

theorem joins?_eq_some {params : JoinParams} (joins : p.joins? i run e = some params) :
    ∃ wait x, p.goesOn? e = some (i, run, wait) ∧ (p.step e).world.progress? i run = some x ∧
      x.hasJoined ∧ (p.callsIn i run e).findSome? (·.join?) = some params := by
  unfold joins? at joins
  split at joins
  next ends =>
    obtain ⟨x, progress, joined⟩ := (Option.any_eq_true _ _).mp ends
    rcases p.goesOn?_cases e i run with ⟨wait, goes⟩ | other
    · exact ⟨wait, x, goes, progress, joined, joins⟩
    · rw [callsIn_of_other other] at joins
      cases joins
  next => cases joins

theorem Attentive.start (orderly : p.world.Orderly)
    (starts : p.world.progress? i run = some (.waiting .start))
    (loaded : (p.world.settings? i).isSome) : p.Attentive i run (.waiting .start) none := by
  obtain ⟨d, here, waits⟩ := orderly.progress?_waiting.mp starts
  have last := (orderly.device here).last run (by simp [waits])
  have known : run < d.runs.length := by
    rw [Device.ledger, List.length_map] at last
    omega
  have stage : p.world.stage? i run = some (d.runs[run]).session.stage :=
    World.stage?_eq_some.mpr ⟨d, here, _, List.getElem?_eq_getElem known, rfl⟩
  refine ⟨orderly, loaded, starts, fun attempt => ?_, fun joined => ?_, _, stage, fun h heard => ?_⟩
  · cases attempt
  · cases joined
  · cases heard

/-- A session is decided well, and a network is joined, with credentials that were accepted in that
session exactly if no extra data decided it without any. The network is that of the credentials as
long as nothing else changes what is stored. -/
theorem follows_heard {board : Board} {events : List Event}
    (reachable : Reachable always (onBoard board) p)
    (starts : p.world.progress? i run = some (.waiting .start))
    (loaded : (p.world.settings? i).isSome) (ran : p.run powered events = some q) :
    p.FollowsHeard i run events q := by
  have start := Attentive.start (orderly_reachable reachable) starts loaded
  obtain ⟨x, attentive⟩ := start.events ran
  constructor
  · intro h known succeeded
    obtain ⟨stage, same, agrees⟩ := attentive.session
    cases same.symm.trans succeeded
    exact (agrees h known).succeeded rfl
  · intro y progress joined
    cases attentive.progress.symm.trans progress
    have within := Provisioning.Progress.isAttempt_of_hasJoined joined
    obtain ⟨h, known, agrees⟩ := attentive.heard within (attentive.joined joined)
    exact ⟨h, known, agrees.succeeded rfl⟩
  · intro e params permits joins
    obtain ⟨wait, y, goes, progress, joined, found⟩ := joins?_eq_some joins
    obtain ⟨v, _, w, same, stage, -, settings, said, turn⟩ :=
      attends_step attentive.orderly permits goes
    cases progress.symm.trans same
    obtain ⟨within, succeeded, st, known, network⟩ := turn.joins joined said found
    cases (progress?_of_goesOn? attentive.orderly goes).symm.trans attentive.progress
    obtain ⟨h, found, agrees⟩ := attentive.heard within (succeeded ▸ stage)
    have stored : q.network? i = some params.network := by
      simp [network?, settings, known, network]
    refine ⟨stored, h, found, agrees.succeeded rfl, fun kept c given => ?_⟩
    exact Option.some.inj (stored.symm.trans (agrees.network kept c given))

set_option maxRecDepth 4000 in
theorem follows_heard_joining :
    let p := sample.step (.boot sampleOptions DeviceInfo.product false)
    let events := [.resume 1, .notify (.easyLinkCompleted (some ⟨"Home", "secret"⟩)),
      .notify (.easyLinkExtraData [0x23, 1, 0, 0, 0])]
    ∃ q ∈ p.run powered events, p.FollowsHeard 0 0 events q ∧
      ((p.heard 0 0 none events).bind (·.credentials)).isSome ∧
        (q.joins? 0 0 (.resume 1)).map (·.network) = some ⟨"Home", "secret"⟩ := by
  intro p events
  have booted : Reachable always sample p := .step .start rfl rfl
  have starts : p.world.progress? 0 0 = some (.waiting .start) := by decide +kernel
  have loaded : (p.world.settings? 0).isSome := by decide +kernel
  have given : ((p.heard 0 0 none events).bind (·.credentials)).isSome := by decide +kernel
  have ran : (p.run powered events).any fun q =>
      (q.joins? 0 0 (.resume 1)).map (·.network) = some ⟨"Home", "secret"⟩ := by
    decide +kernel
  obtain ⟨q, ran, joins⟩ := (Option.any_eq_true _ _).mp ran
  exact ⟨q, ran, follows_heard booted starts loaded ran, given, of_decide_eq_true joins⟩

/-- No notification brings credentials. -/
def withoutCredentials (_ : Scene) : Event → Bool
  | .notify (.easyLinkCompleted (some _)) => false
  | _ => true

/-- Extra data arrive without credentials, and some network comes up. -/
def bareJoin : List Event :=
  [.boot sampleOptions DeviceInfo.product false, .resume 1,
    .notify (.easyLinkExtraData [0x23, 1, 0, 0, 0]), .resume 1,
    .notify (.wifiStatusChanged .stationUp), .resume 1]

set_option maxRecDepth 4000 in
theorem bareJoin_connects : ¬∀ q, Reachable withoutCredentials sample q →
    q.world.progress? 0 0 ≠ some (.ended .connected) := by
  intro never
  have ran : (sample.run withoutCredentials bareJoin).any fun q =>
      q.world.progress? 0 0 = some (.ended .connected) := by
    decide +kernel
  obtain ⟨q, ran, connected⟩ := (Option.any_eq_true _ _).mp ran
  exact never q (reachable_run ran) (of_decide_eq_true connected)

end Scene
end ConnectedDevice
