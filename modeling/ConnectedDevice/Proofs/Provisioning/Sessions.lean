import ConnectedDevice.Proofs.Provisioning.RollBack

/-!
The sessions of runs. A run opens one with every discovery, and with the soft access point; until
then only its notifications decide the one that it has. Those are for all systems and for all runs
that listen, and so the statements here are about one run among them.
-/

namespace ConnectedDevice

open Provisioning (Progress)

/-- The command begins something that a session of its own decides. -/
def RadioCommand.opensSession : RadioCommand → Bool
  | .startDiscovery .. | .startSoftAp _ => true
  | _ => false

def Call.opensSession (c : Call) : Bool := c.command.opensSession

namespace Provisioning

/-- The run is within an attempt, or an attempt was its last. -/
def Progress.isAttempt : Progress → Bool
  | .waiting (.discovering ..) | .waiting (.joining ..) | .ended .connected => true
  | _ => false

/-- The run joined the network of its last session. -/
def Progress.hasJoined : Progress → Bool
  | .waiting (.joining ..) | .ended .connected => true
  | _ => false

/-- What a step makes of the session. -/
inductive Attends (v : Outlook) (wait : RunWait) (x : Progress) (w : Outlook) : Prop
  | renews (calls : List Call) : w.calls = v.calls ++ calls → calls.any (·.opensSession) →
      w.session.stage ≠ .succeeded → x.hasJoined = false → Attends v wait x w
  | keeps (calls : List Call) : w.calls = v.calls ++ calls → calls.any (·.opensSession) = false →
      w.session.stage = v.session.stage →
      (x.isAttempt → (Progress.waiting wait).isAttempt) →
      (x.hasJoined → (Progress.waiting wait).hasJoined ∨ v.session.stage = .succeeded) →
        Attends v wait x w

variable {before : SystemConfig} {v w : Outlook} {x : Progress} {wait : RunWait}

theorem Backs.silent {o : Outcome} (backs : Backs before v o w) :
    w.session = v.session ∧ o ≠ .connected ∧
      Said v w fun calls => calls.any (·.opensSession) = false := by
  cases backs with
  | unloaded _ => exact ⟨rfl, by simp, .nothing rfl rfl⟩
  | off _ _ => exact ⟨rfl, by simp, _, rfl, rfl⟩
  | rejoins _ _ => exact ⟨rfl, by simp, _, rfl, rfl⟩

theorem Backs.attends {o : Outcome} (backs : Backs before v o w) :
    Attends v wait (.ended o) w := by
  obtain ⟨session, other, calls, said, silent⟩ := backs.silent
  refine .keeps calls said silent (congrArg Session.stage session) ?_ ?_
  · simp [Progress.isAttempt, other]
  · simp [Progress.hasJoined, other]

theorem Opens.attends (opens : Opens before v x w) : Attends v wait x w := by
  cases opens with
  | opens _ => exact .renews _ rfl rfl nofun rfl
  | refused _ backs =>
      obtain ⟨session, other, said⟩ := backs.silent
      obtain ⟨calls, said, rest, rfl, -⟩ := said.after
      refine .renews _ said rfl ?_ ?_
      · simp [session, Outlook.say, Outlook.withSession, Session.fresh]
      · simp [Progress.hasJoined, other]

theorem Fails.attends (fails : Fails before v x w) : Attends v wait x w := by
  cases fails with
  | opens _ opens => exact opens.attends
  | backs _ backs => exact backs.attends

theorem Tries.attends {method : DiscoveryMethod} {number : Nat}
    (tries : Tries before method number v x w) : Attends v wait x w := by
  cases tries with
  | discovers _ =>
      refine .renews _ rfl rfl ?_ rfl
      simp only [Outlook.discovering, Outlook.say, Outlook.withSession]
      split <;> simp [Session.fresh, Session.finish, Session.isDecided]
  | fails _ fails => exact fails.attends

theorem Attends.ofSame {u : Outlook} (attends : Attends u wait x w) (calls : u.calls = v.calls)
    (stage : u.session.stage = v.session.stage) : Attends v wait x w := by
  cases attends with
  | renews more said opens unmet unjoined =>
      exact .renews more (calls ▸ said) opens unmet unjoined
  | keeps more said silent same attempt joined =>
      exact .keeps more (calls ▸ said) silent (same.trans stage) attempt (stage ▸ joined)

theorem Begins.attends (begins : Begins v x w) : Attends v .start x w := by
  cases begins with
  | unloaded _ => exact .keeps [] (by simp) rfl rfl nofun nofun
  | joins _ _ => exact .keeps _ rfl rfl rfl nofun nofun
  | opens _ _ opens => exact opens.attends.ofSame rfl rfl
  | opensWithout _ _ _ opens => exact opens.attends
  | tries _ _ _ tries => exact tries.attends

theorem Wakes.attends (wakes : Wakes v wait x w) : Attends v wait x w := by
  cases wakes with
  | failed _ fails | unloaded _ _ fails | lateWithout _ _ _ fails => exact fails.attends
  | late _ _ _ tries => exact tries.attends
  | joins succeeded _ => exact .keeps _ rfl rfl rfl (fun _ => rfl) fun _ => .inr succeeded
  | _ => exact .keeps [] (by simp) rfl rfl id .inl

theorem Turn.attends (turn : Turn v wait x w) : Attends v wait x w := by
  cases turn with
  | begins begins => exact begins.attends
  | ends _ _ =>
      cases wait with
      | discovering _ _ => exact .keeps _ rfl rfl rfl nofun nofun
      | _ => exact .keeps [] (by simp [Outlook.farewell]) rfl rfl nofun nofun
  | wakes _ _ wakes => exact wakes.attends.ofSame rfl rfl

theorem Progress.isAttempt_of_hasJoined (joined : x.hasJoined) : x.isAttempt := by
  unfold Progress.hasJoined at joined
  split at joined
  · rfl
  · rfl
  · cases joined

theorem Attends.unjoined (attends : Attends v .start x w) : x.hasJoined = false := by
  cases attends with
  | renews _ _ _ _ unjoined => exact unjoined
  | keeps _ _ _ _ attempt _ =>
      cases joined : x.hasJoined with
      | false => rfl
      | true => cases attempt (Progress.isAttempt_of_hasJoined joined)

end Provisioning

/-! Notifications -/

/-- The notification can decide a session well. -/
def Notification.brings : Notification → Bool
  | .easyLinkCompleted (some _) | .easyLinkExtraData _ => true
  | _ => false

namespace Notification.Hears

variable {n : Notification} {f : Session → Session} {s : Session}

theorem decided (hears : n.Hears f) (decided : s.stage ≠ .pending) : (f s).stage = s.stage := by
  have finish (success : Bool) : (s.finish success).stage = s.stage := by
    simp [Session.finish, Session.isDecided, decided]
  cases hears with
  | connect => rfl
  | _ => exact finish _

theorem undecided (hears : n.Hears f) (brings : n.brings = false) (missing : s.stage ≠ .succeeded) :
    (f s).stage ≠ .succeeded := by
  have finish : (s.finish false).stage ≠ .succeeded := by
    unfold Session.finish
    split
    · exact missing
    · simp
  cases hears with
  | connect => exact missing
  | fails received => exact finish
  | credentials c | extraData _ _ => cases brings

end Notification.Hears

namespace Device

theorem session_kept (run : Nat) (inv : Session → Prop) :
    Kept (fun deed => ∀ f, deed = .session run f → ∀ s, inv s → inv (f s))
      fun d _ => ∃ r, d.runs[run]? = some r ∧ inv r.session where
  same same known := by
    obtain ⟨r, here, known⟩ := known
    obtain ⟨l, there, kept⟩ := same.runs here
    exact ⟨l, there, kept.session ▸ known⟩
  deed {_ d _ _ _} may leaves known := by
    obtain ⟨r, here, known⟩ := known
    cases leaves with
    | enroll subscriptions _ =>
        have inside := (List.getElem?_eq_some_iff.mp here).1
        exact ⟨r, (List.getElem?_append_left inside).trans here, known⟩
    | session other f =>
        by_cases same : other = run
        · subst same
          refine ⟨{ r with session := f r.session }, ?_, may f rfl r.session known⟩
          simp [modifySession, modifyRun, here]
        · exact ⟨r, by simp [modifySession, modifyRun, same, here], known⟩
    | close other o =>
        by_cases same : other = run
        · subst same
          exact ⟨{ r with outcome := some o }, by simp [Device.close, modifyRun, here], known⟩
        · exact ⟨r, by simp [Device.close, modifyRun, same, here], known⟩
    | _ => exact ⟨r, here, known⟩

end Device

def World.session? (w : World) (i run : Nat) : Option Session :=
  (w.devices[i]?).bind fun d => (d.runs[run]?).map (·.session)

theorem World.session?_eq_some {w : World} {i run : Nat} {session : Session} :
    w.session? i run = some session ↔
      ∃ d, w.devices[i]? = some d ∧ ∃ r, d.runs[run]? = some r ∧ r.session = session := by
  simp [session?, Option.bind_eq_some_iff]

/-- How far the session of a run is decided. -/
def World.stage? (w : World) (i run : Nat) : Option Stage :=
  (w.devices[i]?).bind fun d => (d.runs[run]?).map (·.session.stage)

theorem World.stage?_eq {w : World} {i run : Nat} :
    w.stage? i run = (w.session? i run).map (·.stage) := by
  cases here : w.devices[i]? <;> simp [stage?, session?, here, Function.comp_def]

theorem World.stage?_eq_some {w : World} {i run : Nat} {stage : Stage} :
    w.stage? i run = some stage ↔
      ∃ d, w.devices[i]? = some d ∧ ∃ r, d.runs[run]? = some r ∧ r.session.stage = stage := by
  simp [stage?, Option.bind_eq_some_iff]

namespace Scene

variable {p : Scene} {e : Event} {i run : Nat}

theorem Does.hears {f : Session → Session} (does : p.Does e i (.session run f))
    (other : ∀ wait, p.goesOn? e ≠ some (i, run, wait)) :
    ∃ n, e = .notify n ∧ n.Hears f ∧ p.world.Listens n.kind i run := by
  generalize same : Deed.session run f = deed at does
  cases does with
  | handle may =>
      cases may with
      | session hears listens =>
          cases same
          exact ⟨_, rfl, hears, listens⟩
      | _ => cases same
  | goOn task _ may =>
      subst same
      cases may with
      | proceed may =>
          cases may with
          | session _ => exact absurd (goesOn?_eq_some.mpr ⟨_, rfl, task⟩) (other _)
  | boot boots => cases boots <;> cases same
  | answer may => cases may <;> cases same
  | receive _ receives => cases receives <;> cases same
  | finish _ finishes => cases finishes <;> cases same
  | _ => cases same

/-- What holds of a session outlasts every event but the steps of its run, if it outlasts what the
run hears. -/
theorem session?_elsewhere (inv : Session → Prop) {session : Session} (permits : p.permits e)
    (powered : e ≠ .powerLoss) (other : ∀ wait, p.goesOn? e ≠ some (i, run, wait))
    (known : p.world.session? i run = some session) (holds : inv session)
    (keeps : ∀ n f, e = .notify n → n.Hears f → p.world.Listens n.kind i run →
      ∀ s, inv s → inv (f s)) :
    ∃ later, (p.step e).world.session? i run = some later ∧ inv later := by
  obtain ⟨d, here, r, listed, rfl⟩ := World.session?_eq_some.mp known
  have kept : Kept (p.Does e i) fun d _ => ∃ r, d.runs[run]? = some r ∧ inv r.session := by
    refine (Device.session_kept run inv).mono fun deed does f same => ?_
    subst same
    obtain ⟨n, rfl, hears, listens⟩ := does.hears other
    exact keeps n f rfl hears listens
  obtain ⟨d, here, r, listed, known⟩ := device_step permits powered kept here ⟨r, listed, holds⟩
  exact ⟨_, World.session?_eq_some.mpr ⟨d, here, r, listed, rfl⟩, known⟩

theorem session?_of_outlook? {w : World} {v : Outlook} (sees : w.outlook? i run = some v)
    (known : (w.session? i run).isSome) : w.session? i run = some v.session := by
  obtain ⟨d, here, rfl⟩ := Option.map_eq_some_iff.mp sees
  obtain ⟨_, known⟩ := Option.isSome_iff_exists.mp known
  obtain ⟨_, same, r, listed, rfl⟩ := World.session?_eq_some.mp known
  cases here.symm.trans same
  rw [known]
  simp [Site.outlook, Device.session, listed]

theorem session?_step (permits : p.permits e) (powered : e ≠ .powerLoss)
    (known : (p.world.session? i run).isSome) : ((p.step e).world.session? i run).isSome := by
  obtain ⟨_, known⟩ := Option.isSome_iff_exists.mp known
  obtain ⟨d, here, r, listed, -⟩ := World.session?_eq_some.mp known
  have kept : Kept (p.Does e i) fun d _ => ∃ r, d.runs[run]? = some r ∧ True :=
    (Device.session_kept run fun _ => True).mono fun _ _ _ _ _ => id
  obtain ⟨d, here, r, listed, -⟩ := device_step permits powered kept here ⟨r, listed, trivial⟩
  exact Option.isSome_of_mem (World.session?_eq_some.mpr ⟨d, here, r, listed, rfl⟩)

/-- A session that is decided stays so until its run opens another one. -/
theorem stage?_decided {stage : Stage} (permits : p.permits e) (powered : e ≠ .powerLoss)
    (other : ∀ wait, p.goesOn? e ≠ some (i, run, wait))
    (known : p.world.stage? i run = some stage) (decided : stage ≠ .pending) :
    (p.step e).world.stage? i run = some stage := by
  rw [World.stage?_eq, Option.map_eq_some_iff] at known ⊢
  obtain ⟨session, known, rfl⟩ := known
  refine session?_elsewhere (·.stage = session.stage) permits powered other known rfl
    fun n f _ hears _ s same => ?_
  exact (hears.decided (same ▸ decided)).trans same

/-- Without a notification that brings something, a session is not decided well. -/
theorem stage?_undecided {stage : Stage} (permits : p.permits e) (powered : e ≠ .powerLoss)
    (other : ∀ wait, p.goesOn? e ≠ some (i, run, wait))
    (known : p.world.stage? i run = some stage) (missing : stage ≠ .succeeded)
    (quiet : ∀ n, e = .notify n → p.world.Listens n.kind i run → n.brings = false) :
    ∃ later ≠ Stage.succeeded, (p.step e).world.stage? i run = some later := by
  rw [World.stage?_eq, Option.map_eq_some_iff] at known
  obtain ⟨session, known, rfl⟩ := known
  obtain ⟨later, after, unmet⟩ := session?_elsewhere (·.stage ≠ .succeeded) permits powered other
    known missing fun n f same hears listens s => hears.undecided (quiet n same listens)
  exact ⟨later.stage, unmet, by rw [World.stage?_eq, after, Option.map_some]⟩

end Scene

/-! Credentials -/

/-- As they are stored. -/
def Credentials.limited (c : Credentials) : Credentials :=
  ⟨Text.limited fieldLimits.ssid c.ssid, Text.limited fieldLimits.key c.key⟩

/-- The network that a normal join asks for. -/
def SystemConfig.network (c : SystemConfig) : Credentials := ⟨c.ssid, c.userKey⟩

namespace Device

variable {run : Nat} {c : Credentials} {listens : Nat → Prop}

/-- The run waits for credentials. -/
def Awaits (run : Nat) (d : Device) : Prop :=
  d.store.loaded.isSome ∧ ∃ r, d.runs[run]? = some r ∧ r.session.stage = .pending

def Knows (c : Credentials) (d : Device) : Prop :=
  ∃ st, d.store.loaded = some st ∧ st.system.network = c.limited

theorem knows_kept : Kept ((Notification.easyLinkCompleted (some c)).May listens)
    fun d _ => d.Knows c where
  same same known := by rwa [Knows, same.store]
  deed {_ d _ _ _} may leaves known := by
    obtain ⟨st, loaded, network⟩ := known
    cases leaves with
    | change _ =>
        cases may with
        | brings brings =>
            cases brings
            exact ⟨(Change.credentials c).apply st, by simp [Store.change, loaded], rfl⟩
    | load _ _ => cases may
    | _ => exact ⟨st, loaded, network⟩

theorem awaits_kept {n : Notification} (deaf : ¬listens run) :
    Kept (n.May listens) fun d _ => d.Awaits run := by
  refine (loaded_kept.mono fun _ _ => trivial).and ?_
  refine (session_kept run (·.stage = .pending)).mono fun deed may f same => ?_
  subst same
  cases may with
  | session _ listening => exact absurd listening deaf

end Device

namespace Provisioning

open Act

theorem knows_handle {run : Nat} {c : Credentials} {s : Site} (awaits : s.device.Awaits run) :
    (handle run (.easyLinkCompleted (some c)) s).2.device.Knows c := by
  obtain ⟨loaded, r, here, pending⟩ := awaits
  obtain ⟨st, loaded⟩ := Option.isSome_iff_exists.mp loaded
  have undecided : (s.device.session run).isDecided = false := by
    simp [Device.session, here, Session.isDecided, pending]
  refine ⟨st.modifySystem (·.setCredentials c.ssid c.key), ?_, rfl⟩
  simp only [handle, onCredentials, Act.device_bind, undecided, loaded, Bool.false_eq_true,
    if_false]
  rw [Act.bind_apply]
  split <;> rfl

end Provisioning

namespace World

variable {w u : World} {i run : Nat} {c : Credentials}

theorem knows_call (h : Handler) (known : u.Holds i fun d _ => d.Knows c) :
    (call (.easyLinkCompleted (some c)) u h).Holds i fun d _ => d.Knows c := by
  let listens (i run : Nat) : Prop := h = .provisioning i run
  have path : u.Path (fun i => (Notification.easyLinkCompleted (some c)).May (listens i))
      (call (.easyLinkCompleted (some c)) u h) := Path.refl.call (fun _ _ => id) fun _ _ => id
  exact known.path Device.knows_kept path

theorem awaits_call {n : Notification} {h : Handler} (other : h ≠ .provisioning i run)
    (awaits : u.Holds i fun d _ => d.Awaits run) :
    (call n u h).Holds i fun d _ => d.Awaits run := by
  let listens (i run : Nat) : Prop := h = .provisioning i run
  have path : u.Path (fun i => n.May (listens i)) (call n u h) :=
    Path.refl.call (fun _ _ => id) fun _ _ => id
  exact awaits.path (Device.awaits_kept other) path

theorem knows_call_of_awaits (awaits : u.Holds i fun d _ => d.Awaits run) :
    (call (.easyLinkCompleted (some c)) u (.provisioning i run)).Holds i fun d _ => d.Knows c := by
  obtain ⟨d, here, awaits⟩ := awaits
  exact ⟨_, devices_run _ here, Provisioning.knows_handle (s := ⟨i, u.board, d, []⟩) awaits⟩

/-- Credentials are stored as soon as a run that waits for them hears of them: the other handlers
leave it waiting before, and can only store the same credentials once more after. -/
theorem knows_dispatch (awaits : w.Holds i fun d _ => d.Awaits run)
    (listens : w.Listens .easyLinkCompleted i run) :
    (w.dispatch (.easyLinkCompleted (some c))).Holds i fun d _ => d.Knows c :=
  dispatch_reaches (·.Holds i fun d _ => d.Awaits run) (·.Holds i fun d _ => d.Knows c) awaits
    listens (fun _ => awaits_call) knows_call_of_awaits fun _ => knows_call _

end World
end ConnectedDevice
