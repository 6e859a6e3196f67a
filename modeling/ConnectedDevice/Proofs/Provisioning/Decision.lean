import ConnectedDevice.Proofs.Provisioning.Credentials
import ConnectedDevice.Proofs.Provisioning.Waiter

/-!
How the session of a run is decided. Each session is decided once at most, and a run that waits is
woken by what it waits for. Before the decision, data that cannot be used decide against it and
leave no trace; after it, no data leave one.
-/

namespace ConnectedDevice

open Act
open Provisioning (Progress)

/-- What a run waits for at a wait point. -/
def RunWait.question? : RunWait → Option Question
  | .start => none
  | .discovering .. => some .decision
  | .joining .. | .softAp => some .connection

namespace Session

variable {s : Session}

/-- The session counts its decision. -/
def Counts (s : Session) : Prop := s.signals = s.isDecided.toNat

/-- Whoever waits for what has come finds the permit. -/
def Wakes (s : Session) (wait : RunWait) : Prop :=
  ∀ q, wait.question? = some q → q.holds s → s.permit

theorem isDecided_finish (s : Session) (success : Bool) : (s.finish success).isDecided := by
  cases decided : s.isDecided with
  | true => rwa [Session.finish, decided]
  | false =>
      rw [Session.finish, decided]
      cases success <;> rfl

theorem counts_fresh : fresh.Counts := rfl

theorem Counts.finish (counts : s.Counts) (success : Bool) : (s.finish success).Counts := by
  cases decided : s.isDecided with
  | true => rwa [Session.finish, decided]
  | false =>
      have none : s.signals = 0 := by
        rw [counts, decided]
        rfl
      rw [Counts, Session.finish, decided]
      cases success <;> exact congrArg (· + 1) none

theorem Wakes.finish {wait : RunWait} (wakes : s.Wakes wait) (success : Bool) :
    (s.finish success).Wakes wait := by
  intro q waits holds
  cases decided : s.isDecided with
  | true =>
      have same : s.finish success = s := by rw [Session.finish, decided]; rfl
      rw [same] at holds ⊢
      exact wakes q waits holds
  | false => rw [Session.finish, decided]; rfl

end Session

/-- A session fits how far its run came. -/
structure Session.Fits (s : Session) (x : Progress) : Prop where
  counts : s.Counts
  wakes : ∀ wait, x = .waiting wait → s.Wakes wait

theorem Notification.Hears.fits {n : Notification} {f : Session → Session} {x : Progress}
    (hears : n.Hears f) (s : Session) (fits : s.Fits x) : (f s).Fits x := by
  have finish (success : Bool) : (s.finish success).Fits x :=
    ⟨fits.counts.finish success, fun wait waits => (fits.wakes wait waits).finish success⟩
  cases hears with
  | connect => exact ⟨fits.counts, fun _ _ _ _ _ => rfl⟩
  | _ => exact finish _

namespace Provisioning

variable {before : SystemConfig} {v w : Outlook} {x : Progress} {wait : RunWait}

theorem fits_ended {s : Session} (counts : s.Counts) (o : Outcome) : s.Fits (.ended o) :=
  ⟨counts, fun _ => nofun⟩

theorem Backs.fits {o : Outcome} (backs : Backs before v o w) (counts : v.session.Counts) :
    w.session.Fits (.ended o) :=
  fits_ended (backs.silent.1 ▸ counts) o

theorem Opens.fits (opens : Opens before v x w) : w.session.Fits x := by
  cases opens with
  | opens _ =>
      refine ⟨Session.counts_fresh, ?_⟩
      rintro _ ⟨⟩ q waits holds
      cases waits
      cases holds
  | refused _ backs => exact backs.fits Session.counts_fresh

theorem Fails.fits (fails : Fails before v x w) (counts : v.session.Counts) : w.session.Fits x := by
  cases fails with
  | opens _ opens => exact opens.fits
  | backs _ backs => exact backs.fits counts

theorem Tries.fits {method : DiscoveryMethod} {number : Nat}
    (tries : Tries before method number v x w) (counts : v.session.Counts) :
    w.session.Fits x := by
  cases tries with
  | discovers _ =>
      have fresh : Session.fresh.Fits (.waiting (.discovering number before)) := by
        refine ⟨Session.counts_fresh, ?_⟩
        rintro _ ⟨⟩ q waits holds
        cases waits
        cases holds
      simp only [Outlook.discovering, Outlook.say, Outlook.withSession]
      split
      · exact fresh
      · exact ⟨fresh.counts.finish false, fun wait waits => (fresh.wakes wait waits).finish false⟩
  | fails _ fails => exact fails.fits counts

theorem Begins.fits (begins : Begins v x w) (counts : v.session.Counts) : w.session.Fits x := by
  cases begins with
  | unloaded _ | joins _ _ => exact fits_ended counts _
  | opens _ _ opens | opensWithout _ _ _ opens => exact opens.fits
  | tries _ _ _ tries => exact tries.fits counts

theorem Wakes.fits (wakes : Wakes v wait x w) (counts : v.session.Counts) : w.session.Fits x := by
  -- A run that goes on waiting looked, and what it waits for had not come.
  have missing {wait : RunWait} (s : Session) (counts : s.Counts)
      (missing : ∀ q, wait.question? = some q → q.holds s = false) : s.Fits (.waiting wait) := by
    refine ⟨counts, ?_⟩
    rintro _ ⟨⟩ q waits holds
    simp [missing q waits] at holds
  cases wakes with
  | pending pending =>
      refine missing _ counts fun q waits => ?_
      cases waits
      simp [Question.holds, Session.isDecided, pending]
  | failed _ fails | unloaded _ _ fails | lateWithout _ _ _ fails => exact fails.fits counts
  | late _ _ _ tries => exact tries.fits counts
  | joins _ _ =>
      split
      · exact fits_ended counts _
      next unconnected =>
        refine missing _ counts fun q waits => ?_
        cases waits
        exact (Bool.not_eq_true _).mp unconnected
  | joined _ | served _ => exact fits_ended counts _
  | early unconnected _ | serves unconnected =>
      refine missing _ counts fun q waits => ?_
      cases waits
      exact unconnected

theorem Turn.fits (turn : Turn v wait x w) (counts : v.session.Counts) : w.session.Fits x := by
  cases turn with
  | begins begins => exact begins.fits counts
  | ends _ _ => cases wait <;> exact fits_ended counts _
  | wakes _ _ wakes => exact wakes.fits counts

end Provisioning

/-! Data that leave no trace -/

/-- The notification brings data of a discovery. -/
def Notification.isEasyLink : Notification → Bool
  | .easyLinkCompleted _ | .easyLinkExtraData _ => true
  | _ => false

/-- The extra data are malformed, or the application rejects them. -/
def Device.Refuses (d : Device) (h : Hardware) (data : Bytes) : Prop :=
  match ExtraData.parse data with
  | .error _ => True
  | .ok extra => d.hooked ∧ ∃ e, h.answer (.hook (.receivedAuthData extra.auth)) = .error e

/-- The act leaves the flash and the hardware alone. -/
def Act.Dry {α : Type} (act : Act α) : Prop :=
  ∀ s : Site, (act s).2.board.flash = s.board.flash ∧ (act s).2.board.hardware = s.board.hardware

namespace Act.Dry

variable {α β : Type}

theorem pure (a : α) : Dry (pure a : Act α) := fun _ => ⟨rfl, rfl⟩

theorem bind {x : Act α} {rest : α → Act β} (first : x.Dry) (next : ∀ a, (rest a).Dry) :
    (x >>= rest).Dry := fun s =>
  ⟨(next _ _).1.trans (first s).1, (next _ _).2.trans (first s).2⟩

end Act.Dry

namespace Act

theorem dry_device : Dry device := fun _ => ⟨rfl, rfl⟩

theorem dry_modifyDevice (f : Device → Device) : Dry (modifyDevice f) := fun _ => ⟨rfl, rfl⟩

theorem dry_setSettings (st : Settings) : Dry (setSettings st) := dry_modifyDevice _

theorem dry_setIdentifier (identifier : UInt32) : Dry (setIdentifier identifier) :=
  dry_modifyDevice _

theorem dry_issue (c : Command) : Dry (issue c).run := fun _ => ⟨rfl, rfl⟩

end Act

namespace Provisioning

theorem handle_decided {run : Nat} {n : Notification} {s : Site}
    (decided : (s.device.session run).isDecided) (other : n.kind ≠ .wifiStatusChanged) :
    handle run n s = ((), s) := by
  cases n with
  | wifiStatusChanged event => exact absurd rfl other
  | easyLinkCompleted received =>
      simp only [handle, onCredentials, Act.device_bind, decided]
      rfl
  | easyLinkExtraData data =>
      simp only [handle, onExtraData, Act.device_bind, decided]
      rfl
  | _ => rfl

theorem dry_finish (run : Nat) (success : Bool) : Dry (finish run success) := dry_modifyDevice _

theorem dry_acceptsAuth (auth : Bytes) : Dry (acceptsAuth auth) := by
  refine .bind dry_device fun d => ?_
  cases d.hooked with
  | false => exact .pure _
  | true =>
      refine .bind (dry_issue _) fun answer => ?_
      cases answer <;> exact .pure _

theorem dry_onCredentials (run : Nat) (received : Option Credentials) :
    Dry (onCredentials run received) := by
  refine .bind dry_device fun d => ?_
  split
  · exact .pure _
  · split
    · refine .bind (dry_setSettings _) fun _ => ?_
      split
      · exact dry_finish run _
      · exact .pure _
    · exact dry_finish run _

theorem dry_onExtraData (run : Nat) (data : Bytes) : Dry (onExtraData run data) := by
  refine .bind dry_device fun d => ?_
  split
  · exact .pure _
  · cases ExtraData.parse data with
    | error e => exact dry_finish run _
    | ok extra =>
        refine .bind (dry_acceptsAuth _) fun accepted => ?_
        cases accepted with
        | false => exact dry_finish run _
        | true =>
            refine .bind (dry_setIdentifier _) fun _ => .bind dry_device fun d => ?_
            cases d.store.loaded with
            | none => exact dry_finish run _
            | some st => exact .bind (dry_setSettings _) fun _ => dry_finish run _

theorem dry_handle {n : Notification} (run : Nat) (easyLink : n.isEasyLink) :
    Dry (handle run n) := by
  cases n with
  | easyLinkCompleted received => exact dry_onCredentials run received
  | easyLinkExtraData data => exact dry_onExtraData run data
  | _ => cases easyLink

/-- Data that cannot be used decide against a session, and nothing else comes of them. -/
theorem device_refused {run : Nat} {data : Bytes} {s : Site}
    (undecided : (s.device.session run).isDecided = false)
    (refuses : s.device.Refuses s.board.hardware data) :
    (handle run (.easyLinkExtraData data) s).2.device =
      s.device.modifySession run (·.finish false) := by
  simp only [handle, onExtraData, device_bind, undecided, Bool.false_eq_true, if_false]
  unfold Device.Refuses at refuses
  cases parsed : ExtraData.parse data with
  | error e => rfl
  | ok extra =>
      rw [parsed] at refuses
      obtain ⟨hooked, e, rejects⟩ := refuses
      let asked : Board := (s.board.issue (.hook (.receivedAuthData extra.auth))).2
      have refused : acceptsAuth extra.auth s = (false, { s with board := asked }) := by
        rw [acceptsAuth, device_bind]
        simp only [hooked, Bool.not_true, Bool.false_eq_true, if_false]
        rw [bind_apply]
        have answer : ((issue (.hook (.receivedAuthData extra.auth))).run s).1 = .error e := rejects
        rw [answer]
        rfl
      dsimp only
      rw [bind_apply, refused]
      rfl

end Provisioning

namespace World

variable {w u : World} {n : Notification} {h : Handler} {i run : Nat} {d : Device}

theorem run_of_apply {act : Act Unit} (here : u.devices[i]? = some d)
    (idle : act ⟨i, u.board, d, []⟩ = ((), ⟨i, u.board, d, []⟩)) : u.run i act = u := by
  rw [World.run, on_board here idle]
  rfl

theorem call_system (easyLink : n.isEasyLink) : call n u (.system i) = u := by
  have idle : Device.react n = pure () := by
    cases n with
    | easyLinkCompleted _ | easyLinkExtraData _ => rfl
    | _ => cases easyLink
  cases here : u.devices[i]? with
  | none => simp [call, World.run, World.on, here]
  | some d => exact run_of_apply here (by rw [idle]; rfl)

/-- What concerns neither the system nor the flash. -/
structure Spares (i : Nat) (w u : World) : Prop where
  device : u.devices[i]? = w.devices[i]?
  flash : u.board.flash = w.board.flash
  hardware : u.board.hardware = w.board.hardware

theorem Spares.refl (w : World) : Spares i w w := ⟨rfl, rfl, rfl⟩

theorem Spares.trans {v : World} (first : Spares i w u) (second : Spares i u v) : Spares i w v :=
  ⟨second.device.trans first.device, second.flash.trans first.flash,
    second.hardware.trans first.hardware⟩

theorem spares_call (easyLink : n.isEasyLink) (other : ∀ run, h ≠ .provisioning i run) :
    Spares i u (call n u h) := by
  cases h with
  | application label => exact ⟨rfl, rfl, rfl⟩
  | system j =>
      rw [call_system easyLink]
      exact .refl u
  | provisioning j run =>
      have apart : j ≠ i := by
        rintro rfl
        exact other run rfl
      cases here : u.devices[j]? with
      | none => simpa [call, World.run, World.on, here] using Spares.refl u
      | some d =>
          obtain ⟨flash, hardware⟩ := Provisioning.dry_handle run easyLink ⟨j, u.board, d, []⟩
          simp only [call, World.run, World.on, here]
          exact ⟨List.getElem?_set_ne apart, flash, hardware⟩

theorem call_decided (easyLink : n.isEasyLink) (here : u.devices[i]? = some d)
    (decided : (d.session run).isDecided) : call n u (.provisioning i run) = u := by
  have other : n.kind ≠ .wifiStatusChanged := by
    cases n with
    | easyLinkCompleted _ | easyLinkExtraData _ => nofun
    | _ => cases easyLink
  exact run_of_apply here (Provisioning.handle_decided decided other)

theorem spares_call_decided (easyLink : n.isEasyLink) (here : u.devices[i]? = some d)
    (decided : ∀ run, h = .provisioning i run → (d.session run).isDecided) :
    Spares i u (call n u h) := by
  by_cases own : ∃ run, h = .provisioning i run
  · obtain ⟨run, rfl⟩ := own
    rw [call_decided easyLink here (decided run rfl)]
    exact .refl u
  · exact spares_call easyLink fun run same => own ⟨run, same⟩

/-- Where all sessions that hear of the data are decided, the system takes nothing from them. -/
theorem spares_dispatch (easyLink : n.isEasyLink) (here : w.devices[i]? = some d)
    (decided : ∀ run, w.Listens n.kind i run → (d.session run).isDecided) :
    Spares i w (w.dispatch n) := by
  refine calls (Spares i w) (.refl w) fun {u h} found spares => ?_
  refine spares.trans (spares_call_decided easyLink (spares.device.trans here) ?_)
  rintro run rfl
  exact decided run found

/-- Extra data that cannot be used decide against the session that hears of them, and leave no other
trace on its system. -/
theorem dispatch_refused {data : Bytes} (here : w.devices[i]? = some d)
    (listens : w.Listens .easyLinkExtraData i run)
    (alone : ∀ other, w.Listens .easyLinkExtraData i other → other = run)
    (inside : run < d.runs.length) (undecided : (d.session run).isDecided = false)
    (refuses : d.Refuses w.board.hardware data) :
    (w.dispatch (.easyLinkExtraData data)).devices[i]? =
        some (d.modifySession run (·.finish false)) ∧
      (w.dispatch (.easyLinkExtraData data)).board.flash = w.board.flash := by
  let refused (u : World) : Prop := u.devices[i]? = some (d.modifySession run (·.finish false)) ∧
    u.board.flash = w.board.flash
  have decided : ((d.modifySession run (·.finish false)).session run).isDecided := by
    rw [d.session_modifySession inside]
    exact Session.isDecided_finish _ _
  refine dispatch_reaches (Spares i w) refused (.refl w) listens ?_ ?_ ?_
  · intro u h found other spares
    refine spares.trans (spares_call rfl fun run' same => ?_)
    subst same
    exact other (alone run' found ▸ rfl)
  · intro u spares
    have same : u.devices[i]? = some d := spares.device.trans here
    refine ⟨?_, ?_⟩
    · rw [← spares.hardware] at refuses
      rw [call, devices_run _ same]
      exact congrArg some (Provisioning.device_refused undecided refuses)
    · have dry := Provisioning.dry_handle run (n := .easyLinkExtraData data) rfl
        ⟨i, u.board, d, []⟩
      simp only [call, World.run, World.on, same]
      exact dry.1.trans spares.flash
  · intro u h found known
    have spares : Spares i u (call (.easyLinkExtraData data) u h) := by
      refine spares_call_decided rfl known.1 ?_
      rintro run' rfl
      rw [alone run' found]
      exact decided
    exact ⟨spares.device.trans known.1, spares.flash.trans known.2⟩

end World

end ConnectedDevice
