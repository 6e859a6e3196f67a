import ConnectedDevice.Proofs.Device.Acts
import ConnectedDevice.Proofs.Notification.Center
import ConnectedDevice.Proofs.Power.Daemon

/-!
What the acts of a system do to the matters on which deeds are silent: the power requests, the
commands, the timers and the registrations. To the power daemon an act is a number of moves of its
clients. Most acts do no more than that; the others deal with what the system shares with the rest
of the board, in a few ways.
-/

namespace ConnectedDevice

open Daemon (Stand Move)

def Task.power? : Task → Option PowerWait
  | .power wait => some wait
  | _ => none

def Task.linger? : Task → Option Nat
  | .linger due => some due
  | _ => none

/-- The power daemon of a system, as its clients find it between their acts. -/
def Site.daemon (s : Site) (stand : Stand) : Daemon :=
  ⟨s.device.power, 0, stand, s.device.store, s.board.flash⟩

/-- The system and its runs list the registrations that they listed, and go on as they did. -/
structure Device.Retains (d later : Device) : Prop where
  stopped : later.stopped = d.stopped
  subscriptions : later.subscriptions = d.subscriptions
  runs : later.runs.map (fun r => (r.outcome, r.subscriptions)) =
    d.runs.map fun r => (r.outcome, r.subscriptions)

/-- All that is said leaves the announcement of the station up. -/
def Board.Upholds (b later : Board) : Prop :=
  ∃ said, later.issued = b.issued ++ said ∧ .withdraw .station ∉ said

/-- What a system does for itself, while it asks for power transitions. -/
structure Site.Aside (asked : List PowerState) (s t : Site) : Prop where
  index : t.index = s.index
  center : t.board.center = s.board.center
  retains : s.device.Retains t.device
  called : Daemon.Called asked s.daemon t.daemon
  powers : t.spawned.filterMap (·.power?) = s.spawned.filterMap (·.power?)
  lingers : t.spawned.filterMap (·.linger?) = s.spawned.filterMap (·.linger?)
  upholds : s.board.Upholds t.board

/-- Handlers were registered, and nothing else was done. -/
structure Site.Registers (h : Handler) (s t : Site) (keys : List (NotificationKind × Nat)) : Prop
    where
  rest : ∃ center, t = { s with board := { s.board with center } }
  numbers : s.board.center.nextId ≤ t.board.center.nextId
  center : ∃ new, t.board.center.subscriptions = s.board.center.subscriptions ++ new ∧
    new.map (·.key) = keys ∧
      ∀ x ∈ new, x.callback = h ∧ s.board.center.nextId ≤ x.id ∧ x.id < t.board.center.nextId

/-- How a system deals with what it shares. -/
inductive Dealing where
  /-- the power task takes a request -/
  | take
  /-- the power task starts -/
  | serve
  | withdraw
  /-- registers handlers of the system -/
  | attach
  /-- starts a run, with handlers -/
  | enroll
  /-- takes back what was just registered -/
  | retract
  | close (run : Nat) (outcome : Outcome)
  | stop

/-- How a system deals that is started. -/
inductive Dealing.Starts : Dealing → Prop
  | serve : Starts .serve
  | attach : Starts .attach
  | enroll : Starts .enroll
  | retract : Starts .retract
  | stop : Starts .stop

/-- The system has registered nothing yet. -/
structure Device.Fresh (d : Device) : Prop where
  stopped : d.stopped = false
  subscriptions : d.subscriptions = []

/-- A run that ends takes back its registrations, and leaves a timer. -/
def Site.closing (s : Site) (due run : Nat) (outcome : Outcome) : Site :=
  let subscriptions := ((s.device.runs[run]?).map (·.subscriptions)).getD []
  { s with
    device := s.device.close run outcome
    board := (Act.unregister subscriptions s).2.board
    spawned := s.spawned ++ [.linger due] }

/-- What a system does while it asks for power transitions, and deals as it may. -/
inductive Site.Conduct (may : Dealing → Prop) : List PowerState → Site → Site → Prop
  | aside {asked : List PowerState} {s t : Site} : s.Aside asked t → Conduct may asked s t
  | trans {asked more : List PowerState} {s t u : Site} :
      Conduct may asked s t → Conduct may more t u → Conduct may (asked ++ more) s u
  | take (s : Site) : may .take → Conduct may [] s (Device.takePowerRequest s).2
  | serve (s : Site) : may .serve → Conduct may [] s (Act.spawn (.power .idle) s).2
  | withdraw (s : Site) : may .withdraw → Conduct may [] s (Act.tell (.withdraw .station) s).2
  | attach {s t : Site} {keys : List (NotificationKind × Nat)} :
      may .attach → s.device.Fresh → s.Registers (.system s.index) t keys →
        Conduct may [] s { t with device := { t.device with subscriptions := keys } }
  | enroll {s t : Site} {keys : List (NotificationKind × Nat)} :
      may .enroll → s.device.provisioning = false → keys.map (·.1) = Provisioning.kinds →
        s.Registers (.provisioning s.index s.device.runs.length) t keys →
          Conduct may [] s (t.enroll keys)
  | retract {h : Handler} {s t : Site} {keys : List (NotificationKind × Nat)} :
      may .retract → s.Registers h t keys → Conduct may [] s (Act.unregister keys t).2
  | close (s : Site) (due : Nat) {run : Nat} {outcome : Outcome} :
      may (.close run outcome) → Conduct may [] s (s.closing due run outcome)
  | stop (s : Site) : may .stop → Conduct may [] s (Device.stop s).2

/-- The act deals as it may, and asks for no power transition. -/
def Act.Deals {α : Type} (may : Dealing → Prop) (act : Act α) : Prop :=
  ∀ s : Site, s.Conduct may [] (act s).2

/-- The act may ask for these power transitions. -/
def Act.Asks {α : Type} (may : Dealing → Prop) (wants : List PowerState → Prop) (act : Act α) :
    Prop :=
  ∀ s : Site, ∃ asked, wants asked ∧ s.Conduct may asked (act s).2

/-- The act starts a run only if it succeeds. -/
def Site.Enrolls {α : Type} (may : Dealing → Prop) (s : Site) (x : Fallible α) : Prop :=
  ((x.run s).1.isOk → may .enroll) → s.Conduct may [] (x.run s).2

theorem Device.Retains.refl (d : Device) : d.Retains d := ⟨rfl, rfl, rfl⟩

theorem Device.Retains.fresh {d later : Device} (retains : d.Retains later) (fresh : d.Fresh) :
    later.Fresh :=
  ⟨retains.stopped.trans fresh.stopped, retains.subscriptions.trans fresh.subscriptions⟩

theorem Device.Retains.trans {d e f : Device} (first : d.Retains e) (second : e.Retains f) :
    d.Retains f :=
  ⟨second.stopped.trans first.stopped, second.subscriptions.trans first.subscriptions,
    second.runs.trans first.runs⟩

theorem Board.Upholds.nothing {b later : Board} (same : later.issued = b.issued) :
    b.Upholds later :=
  ⟨[], by simp [same]⟩

theorem Board.Upholds.trans {b c d : Board} (first : b.Upholds c) (second : c.Upholds d) :
    b.Upholds d := by
  obtain ⟨said, same, up⟩ := first
  obtain ⟨more, further, still⟩ := second
  exact ⟨said ++ more, by rw [further, same, List.append_assoc], by simp [up, still]⟩

open Act in
/-- All requests and marks are taken at once, and what waits to be written is written. -/
theorem Device.takePowerRequest_apply (s : Site) : takePowerRequest s = (s.device.power.requested,
    { s with
      device := { s.device with power := .none }
      board :=
        if s.device.power.dirty then
          { s.board with flash := (s.device.store.commit s.board.flash).2 }
        else s.board }) := by
  rw [takePowerRequest, device_bind]
  cases dirty : s.device.power.dirty <;>
    simp [dirty, PowerRequests.wake, PowerRequests.take] <;> rfl

namespace Site

variable {asked more : List PowerState} {s t u : Site}

namespace Aside

theorem refl (s : Site) : s.Aside [] s :=
  ⟨rfl, rfl, .refl _, .refl _, rfl, rfl, .nothing rfl⟩

theorem trans (first : s.Aside asked t) (second : t.Aside more u) : s.Aside (asked ++ more) u where
  index := second.index.trans first.index
  center := second.center.trans first.center
  retains := first.retains.trans second.retains
  called := first.called.trans second.called
  powers := second.powers.trans first.powers
  lingers := second.lingers.trans first.lingers
  upholds := first.upholds.trans second.upholds

theorem ofMoves (moves : List Move) (clients : ∀ m ∈ moves, m.isClient)
    (ran : ∀ stand, (s.daemon stand).run moves = some (t.daemon stand))
    (retains : s.device.Retains t.device) (index : t.index = s.index := by rfl)
    (center : t.board.center = s.board.center := by rfl)
    (spawned : t.spawned = s.spawned := by rfl)
    (issued : t.board.issued = s.board.issued := by rfl) :
    s.Aside (moves.filterMap (·.asks?)) t :=
  ⟨index, center, retains, ⟨moves, clients, rfl, ran⟩, by rw [spawned], by rw [spawned],
    .nothing issued⟩

end Aside

theorem Conduct.refl {may : Dealing → Prop} (s : Site) : s.Conduct may [] s := .aside (.refl s)

/-- A system that does not deal does all for itself. -/
theorem Conduct.isAside {may : Dealing → Prop} (conduct : s.Conduct may asked t)
    (idle : ∀ x, ¬may x) : s.Aside asked t := by
  induction conduct with
  | aside aside => exact aside
  | trans _ _ first second => exact first.trans second
  | take _ deals | serve _ deals | withdraw _ deals | attach deals _ _ | enroll deals _ _ _
  | retract deals _ | close _ _ deals | stop _ deals => exact absurd deals (idle _)

theorem Conduct.mono {may other : Dealing → Prop} (conduct : s.Conduct may asked t)
    (weaker : ∀ x, may x → other x) : s.Conduct other asked t := by
  induction conduct with
  | aside aside => exact .aside aside
  | trans _ _ first second => exact first.trans second
  | take s allowed => exact .take s (weaker _ allowed)
  | serve s allowed => exact .serve s (weaker _ allowed)
  | withdraw s allowed => exact .withdraw s (weaker _ allowed)
  | attach allowed fresh registers => exact .attach (weaker _ allowed) fresh registers
  | enroll allowed idle kinds registers => exact .enroll (weaker _ allowed) idle kinds registers
  | retract allowed registers => exact .retract (weaker _ allowed) registers
  | close s due allowed => exact .close s due (weaker _ allowed)
  | stop s allowed => exact .stop s (weaker _ allowed)

/-- Unless its power task starts or takes a request, the system is a client of its daemon. -/
theorem Conduct.powers {may : Dealing → Prop} (conduct : s.Conduct may asked t)
    (serve : ¬may .serve) : t.spawned.filterMap (·.power?) = s.spawned.filterMap (·.power?) := by
  induction conduct with
  | aside aside => exact aside.powers
  | trans _ _ first second => exact second.trans first
  | serve s serves => exact absurd serves serve
  | attach _ _ registers | retract _ registers =>
      obtain ⟨center, rfl⟩ := registers.rest
      rfl
  | enroll _ _ _ registers =>
      obtain ⟨center, rfl⟩ := registers.rest
      simp [Site.enroll, Task.power?]
  | close s due _ => simp [closing, Task.power?]
  | take s _ => rw [Device.takePowerRequest_apply]
  | withdraw s _ | stop s _ => rfl

/-- Unless a run ends, no timer starts. -/
theorem Conduct.lingers {may : Dealing → Prop} (conduct : s.Conduct may asked t)
    (close : ∀ run o, ¬may (.close run o)) :
    t.spawned.filterMap (·.linger?) = s.spawned.filterMap (·.linger?) := by
  induction conduct with
  | aside aside => exact aside.lingers
  | trans _ _ first second => exact second.trans first
  | take s _ => rw [Device.takePowerRequest_apply]
  | attach _ _ registers | retract _ registers =>
      obtain ⟨center, rfl⟩ := registers.rest
      rfl
  | enroll _ _ _ registers =>
      obtain ⟨center, rfl⟩ := registers.rest
      simp [Site.enroll, Task.linger?]
  | close s due closes => exact absurd closes (close _ _)
  | serve s _ =>
      have appended : (Act.spawn (.power .idle) s).2.spawned = s.spawned ++ [.power .idle] := rfl
      simp [appended, Task.linger?]
  | withdraw s _ | stop s _ => rfl

theorem Conduct.upholds {may : Dealing → Prop} (conduct : s.Conduct may asked t)
    (withdraw : ¬may .withdraw) : s.board.Upholds t.board := by
  induction conduct with
  | aside aside => exact aside.upholds
  | trans _ _ first second => exact first.trans second
  | take s _ =>
      rw [Device.takePowerRequest_apply]
      refine .nothing ?_
      dsimp only
      split <;> rfl
  | withdraw s withdraws => exact absurd withdraws withdraw
  | attach _ _ registers | retract _ registers | enroll _ _ _ registers =>
      obtain ⟨center, rfl⟩ := registers.rest
      exact .nothing rfl
  | serve s _ | close s due _ | stop s _ => exact .nothing rfl

theorem Conduct.called {may : Dealing → Prop} (conduct : s.Conduct may asked t)
    (take : ¬may .take) : Daemon.Called asked s.daemon t.daemon := by
  induction conduct with
  | aside aside => exact aside.called
  | trans _ _ first second => exact first.trans second
  | take s takes => exact absurd takes take
  | attach _ _ registers | retract _ registers | enroll _ _ _ registers =>
      obtain ⟨center, rfl⟩ := registers.rest
      exact .refl _
  | serve s _ | withdraw s _ | close s due _ | stop s _ => exact .refl _

end Site

/-- The systems differ in nothing that the power daemon or a registration knows of. -/
structure Device.Alike (d later : Device) : Prop extends d.Retains later where
  power : later.power = d.power
  store : later.store = d.store

theorem Device.Alike.ofRuns {d later : Device} (runs : later.runs = d.runs)
    (power : later.power = d.power := by rfl) (store : later.store = d.store := by rfl)
    (stopped : later.stopped = d.stopped := by rfl)
    (subscriptions : later.subscriptions = d.subscriptions := by rfl) : d.Alike later :=
  ⟨⟨stopped, subscriptions, by rw [runs]⟩, power, store⟩

theorem Device.alike_modifyRun {d : Device} {f : Run → Run} (run : Nat)
    (keeps : ∀ r, (f r).outcome = r.outcome ∧ (f r).subscriptions = r.subscriptions) :
    d.Alike (d.modifyRun run f) := by
  refine ⟨⟨rfl, rfl, List.ext_getElem? fun other => ?_⟩, rfl, rfl⟩
  simp only [modifyRun, List.getElem?_map, List.getElem?_modify]
  cases d.runs[other]? with
  | none => rfl
  | some r => by_cases same : run = other <;> simp [same, keeps r]

namespace Site.Enrolls

variable {may : Dealing → Prop} {α β : Type} {s : Site} {x : Fallible α} {rest : α → Fallible β}

theorem bindOk (first : s.Conduct may [] (x.run s).2)
    (next : ∀ a, (x.run s).2.Enrolls may (rest a)) : s.Enrolls may (x >>= rest) := by
  intro enrolls
  rw [Fallible.bind_apply] at enrolls ⊢
  cases answer : (x.run s).1 with
  | ok a => exact first.trans (next a (by simpa [answer] using enrolls))
  | error e => exact first

theorem bindLift {act : Act α} (first : s.Conduct may [] (act s).2)
    (next : ∀ a, (act s).2.Enrolls may (rest a)) : s.Enrolls may (liftM act >>= rest) :=
  fun enrolls => first.trans (next (act s).1 enrolls)

/-- What follows cannot fail. -/
theorem andThen {act : α → Act β} (first : s.Enrolls may x) (next : ∀ a, (act a).Deals may) :
    s.Enrolls may (x >>= fun a => liftM (act a)) := by
  intro enrolls
  rw [Fallible.bind_apply] at enrolls ⊢
  unfold Site.Enrolls at first
  cases answer : (x.run s).1 with
  | ok a =>
      rw [answer] at enrolls first
      exact (first enrolls).trans (next a _)
  | error e =>
      rw [answer] at enrolls first
      exact first enrolls

end Site.Enrolls

namespace Act

variable {may : Dealing → Prop} {wants : List PowerState → Prop} {α β : Type}

namespace Deals

theorem asks {act : Act α} (deals : act.Deals may) (nothing : wants []) : act.Asks may wants :=
  fun s => ⟨[], nothing, deals s⟩

theorem pure (a : α) : Deals may (pure a : Act α) := .refl

theorem bind {x : Act α} {rest : α → Act β} (first : x.Deals may)
    (next : ∀ a, (rest a).Deals may) : (x >>= rest).Deals may :=
  fun s => (first s).trans (next (x s).1 (x s).2)

theorem bindOk {x : Fallible α} {rest : α → Fallible β} (first : Deals may x.run)
    (next : ∀ a, Deals may (rest a).run) : Deals may (x >>= rest).run := by
  intro s
  rw [Fallible.bind_apply]
  cases (x.run s).1 with
  | ok a => exact (first s).trans (next a _)
  | error e => exact first s

theorem lift {act : Act α} (deals : act.Deals may) :
    Deals may (liftM act : Fallible α).run := deals

theorem bindLift {act : Act α} {rest : α → Fallible β} (first : act.Deals may)
    (next : ∀ a, Deals may (rest a).run) : Deals may (liftM act >>= rest).run := by
  rw [Fallible.bind_lift]
  exact first.bind next

theorem discard {act : Act α} (deals : act.Deals may) : Deals may (Functor.discard act) := deals

theorem ofAside {act : Act α} (aside : ∀ s : Site, s.Aside [] (act s).2) : act.Deals may :=
  fun s => .aside (aside s)

end Deals

namespace Asks

theorem discard {act : Act α} (asked : act.Asks may wants) : Asks may wants (Functor.discard act) :=
  asked

theorem bind {x : Act α} {rest : α → Act β} (first : x.Deals may)
    (next : ∀ a, (rest a).Asks may wants) : (x >>= rest).Asks may wants := by
  intro s
  obtain ⟨asked, allowed, later⟩ := next (x s).1 (x s).2
  exact ⟨asked, allowed, (first s).trans later⟩

theorem andThen {x : Act α} {rest : α → Act β} (first : x.Asks may wants)
    (next : ∀ a, (rest a).Deals may) : (x >>= rest).Asks may wants := by
  intro s
  obtain ⟨asked, allowed, done⟩ := first s
  refine ⟨asked, allowed, ?_⟩
  have whole := done.trans (next (x s).1 (x s).2)
  rwa [List.append_nil] at whole

theorem bindOk {x : Fallible α} {rest : α → Fallible β} (first : Deals may x.run)
    (nothing : wants []) (next : ∀ a, Asks may wants (rest a).run) :
    Asks may wants (x >>= rest).run := by
  intro s
  rw [Fallible.bind_apply]
  cases (x.run s).1 with
  | ok a =>
      obtain ⟨asked, allowed, later⟩ := next a (x.run s).2
      exact ⟨asked, allowed, (first s).trans later⟩
  | error e => exact ⟨[], nothing, first s⟩

theorem bindLift {act : Act α} {rest : α → Fallible β} (first : act.Deals may)
    (next : ∀ a, Asks may wants (rest a).run) : Asks may wants (liftM act >>= rest).run := by
  rw [Fallible.bind_lift]
  exact .bind first next

end Asks

/-! The acts that all others are made of -/

theorem deals_get : Deals may (get : Act Site) := .refl

theorem deals_device : Deals may device := .refl

theorem deals_now : Deals may now := .refl

theorem deals_settings : Deals may settings.run := .refl

theorem deals_ofExcept (r : Except Error α) : Deals may (Fallible.ofExcept r).run := .refl

theorem deals_throw (e : Error) : Deals may (throw e : Fallible α).run := .refl

theorem deals_modifyDevice {f : Device → Device} (alike : ∀ d : Device, d.Alike (f d)) :
    Deals may (modifyDevice f) := by
  refine .ofAside fun s => .ofMoves [] (by simp) (fun stand => congrArg some ?_)
    (alike s.device).toRetains
  exact Daemon.mk.injEq .. |>.mpr
    ⟨(alike s.device).power.symm, rfl, rfl, (alike s.device).store.symm, rfl⟩

theorem deals_modifySession (run : Nat) (f : Session → Session) :
    Deals may (modifyDevice fun d => d.modifySession run f) :=
  deals_modifyDevice fun _ => Device.alike_modifyRun run fun _ => ⟨rfl, rfl⟩

theorem deals_issue {c : Command} (other : c ≠ .withdraw .station) : Deals may (issue c).run := by
  refine .ofAside fun s => ⟨rfl, rfl, .refl _, .refl _, rfl, rfl, [c], rfl, ?_⟩
  simpa using other.symm

theorem deals_tell {c : Command} (other : c ≠ .withdraw .station) : Deals may (tell c) :=
  deals_issue other

theorem deals_hook (h : Hook) : Deals may (hook h) := by
  refine .bind deals_device fun d => ?_
  cases d.hooked with
  | true => exact deals_tell nofun
  | false => exact .pure _

theorem deals_announce (i : Interface) : Deals may (announce i) :=
  .bind deals_device fun _ => deals_tell nofun

theorem deals_reannounce (i : Interface) : Deals may (reannounce i) :=
  .bind deals_device fun _ => deals_tell nofun

theorem deals_connect (p : JoinParams) : Deals may (connect p) := deals_tell nofun

theorem deals_setIdentifier (identifier : UInt32) : Deals may (setIdentifier identifier) :=
  deals_modifyDevice fun _ => .ofRuns rfl

theorem deals_spawn {t : Task} (power : t.power? = none) (linger : t.linger? = none) :
    Deals may (spawn t) := by
  refine .ofAside fun s => ?_
  have appended : (spawn t s).2.spawned = s.spawned ++ [t] := rfl
  refine ⟨rfl, rfl, .refl _, .refl _, ?_, ?_, .nothing rfl⟩
  · simp [appended, power]
  · simp [appended, linger]

theorem deals_setSettings (st : Settings) : Deals may (setSettings st) :=
  .ofAside fun _ => .ofMoves [.set st] (by simp [Move.isClient]) (fun _ => rfl) ⟨rfl, rfl, rfl⟩

theorem deals_commit : Deals may commit.run :=
  .ofAside fun _ => .ofMoves [.commit] (by simp [Move.isClient]) (fun _ => rfl) (.refl _)

theorem deals_onFlash {operation : Nor → Except FlashError Nor}
    (keeps : ∀ f g, operation f = .ok g → g.region? .config = f.region? .config) :
    Deals may (onFlash operation).run := by
  refine .ofAside fun s => ?_
  rw [onFlash_run]
  split
  next flash done =>
    refine .ofMoves [.flash flash] (by simp [Move.isClient]) (fun stand => ?_) (.refl _)
    have kept : flash.region? .config = (s.daemon stand).flash.region? .config := keeps _ _ done
    simp [Daemon.run, Daemon.step, kept]
    rfl
  next => exact .refl s

theorem deals_markDirty : Deals may markDirty :=
  .ofAside fun _ => .ofMoves [.mark] (by simp [Move.isClient]) (fun _ => rfl) ⟨rfl, rfl, rfl⟩

theorem conduct_requestPower (state : PowerState) (s : Site) :
    s.Conduct may [state] (requestPower state s).2 :=
  .aside (.ofMoves [.ask state, .signal] (by simp [Move.isClient]) (fun _ => rfl) ⟨rfl, rfl, rfl⟩)

theorem asks_requestPower {state : PowerState} (allowed : wants [state]) :
    Asks may wants (requestPower state) :=
  fun s => ⟨[state], allowed, conduct_requestPower state s⟩

/-! Registrations -/

theorem unregister_apply (keys : List (NotificationKind × Nat)) (s : Site) :
    (unregister keys s).2 =
      { s with
        board :=
          { s.board with
            center :=
              { s.board.center with
                subscriptions := s.board.center.subscriptions.filter (·.key ∉ keys) } } } := by
  rw [← Center.foldl_remove]
  rfl

theorem register_run (kind : NotificationKind) (h : Handler) (s : Site) :
    (∃ e, (register kind h).run s = (.error e, s)) ∨
      ∃ id center, s.board.center.register kind h = .ok (id, center) ∧
        (register kind h).run s =
          (.ok (kind, id), { s with board := { s.board with center } }) := by
  simp only [register, ExceptT.run_mk]
  cases registered : s.board.center.register kind h with
  | error e => exact .inl ⟨e, rfl⟩
  | ok result => exact .inr ⟨result.1, result.2, rfl, rfl⟩

end Act

namespace Site.Registers

variable {h : Handler} {s t u : Site} {keys more : List (NotificationKind × Nat)}

theorem none (h : Handler) (s : Site) : s.Registers h s [] :=
  ⟨⟨s.board.center, rfl⟩, Nat.le_refl _, [], by simp⟩

theorem append (first : s.Registers h t keys) (second : t.Registers h u more) :
    s.Registers h u (keys ++ more) := by
  obtain ⟨⟨_, rfl⟩, numbers, new, same, known, own⟩ := first
  obtain ⟨⟨center, rfl⟩, further, later, appended, listed, others⟩ := second
  refine ⟨⟨center, rfl⟩, Nat.le_trans numbers further, new ++ later, ?_, ?_, ?_⟩
  · rw [appended, same, List.append_assoc]
  · rw [List.map_append, known, listed]
  · intro x found
    rcases List.mem_append.mp found with here | there
    · obtain ⟨callback, above, below⟩ := own x here
      exact ⟨callback, above, Nat.lt_of_lt_of_le below further⟩
    · obtain ⟨callback, above, below⟩ := others x there
      exact ⟨callback, Nat.le_trans numbers above, below⟩

theorem of_register {kind : NotificationKind} {key : NotificationKind × Nat}
    (done : ((Act.register kind h).run s).1 = .ok key) :
    s.Registers h ((Act.register kind h).run s).2 [key] := by
  rcases Act.register_run kind h s with ⟨e, failed⟩ | ⟨id, center, registered, same⟩
  · rw [failed] at done
    cases done
  · rw [same] at done ⊢
    cases done
    obtain ⟨rfl, rfl⟩ := Center.register_eq_ok registered
    exact ⟨⟨_, rfl⟩, Nat.le_succ _, [⟨_, kind, h⟩], rfl, rfl, by simp⟩

theorem of_refusal {kind : NotificationKind} {e : Error}
    (failed : ((Act.register kind h).run s).1 = .error e) :
    ((Act.register kind h).run s).2 = s := by
  rcases Act.register_run kind h s with ⟨e, same⟩ | ⟨id, center, -, same⟩
  · rw [same]
  · rw [same] at failed
    cases failed

end Site.Registers

theorem Fallible.get_bind {β : Type} (rest : Site → Fallible β) (s : Site) :
    (get >>= rest).run s = (rest s).run s := rfl

end ConnectedDevice
