import ConnectedDevice.Proofs.Store
import ConnectedDevice.Power

/-!
The power daemon among its callers, at the grain at which they interleave. A caller stores its
request and leaves the permit in a second move. The daemon takes the permit, the request and the
mark of changed settings one after the other; then it commits, announces, and carries out. Whoever
else uses the store or the flash moves in between. A parked daemon that is told to end may do so or
take a permit that is there, so that both are moves.
-/

namespace ConnectedDevice

namespace PowerRequests

/-- The first half of a request. -/
def ask (p : PowerRequests) (s : PowerState) : PowerRequests := { p with requested := s }

/-- The second half of a request: it leaves the permit. -/
def signal (p : PowerRequests) : PowerRequests := { p with permit := true }

theorem request_eq (p : PowerRequests) (s : PowerState) : p.request s = (p.ask s).signal := rfl

end PowerRequests

namespace Daemon

/-- Where the daemon stands in its loop. -/
inductive Stand where
  | parked
  | woken
  /-- has taken the request -/
  | took (s : PowerState)
  /-- has also taken the mark of changed settings -/
  | drained (s : PowerState) (dirty : Bool)
  /-- has announced a transition, and waits to carry it out -/
  | announced (s : PowerState)
  | gone
deriving DecidableEq, Repr

inductive Move where
  /-- a client changes the settings -/
  | set (st : Settings)
  /-- a client commits them -/
  | commit
  /-- the flash changes in other ways, or refuses to from now on -/
  | flash (f : Nor)
  | mark
  | ask (s : PowerState)
  | signal
  | wake
  | take
  | drain
  | write
  | execute
  /-- the daemon is told to end while it is parked, whether or not there is a permit -/
  | quit

/-- The move asks for a power transition. -/
def Move.asks? : Move → Option PowerState
  | .ask s => some s
  | _ => none

/-- The move is one of the daemon's surroundings. -/
def Move.isClient : Move → Bool
  | .set _ | .commit | .flash _ | .mark | .ask _ | .signal => true
  | _ => false

/-- The daemon makes the move by itself. -/
def Move.isOwn : Move → Bool
  | .wake | .take | .drain | .write | .execute => true
  | _ => false

end Daemon

open Daemon (Stand Move)

structure Daemon where
  power : PowerRequests
  /-- the callers that have stored a request and not left the permit yet -/
  callers : Nat
  stand : Stand
  store : Store
  flash : Nor

namespace Daemon

/-- A daemon that starts on a store and a flash. -/
def start (store : Store) (flash : Nor) : Daemon := ⟨.none, 0, .parked, store, flash⟩

/-- A commit of what is in memory, whether it succeeds or not. -/
def committed (d : Daemon) : Daemon := { d with flash := (d.store.commit d.flash).2 }

/-- Where the daemon goes with the request after the commit. -/
def Stand.serving (s : PowerState) : Stand := if s = .normal then .parked else .announced s

/-- The daemon after a move, if the move can be made. -/
def step (d : Daemon) : Move → Option Daemon
  | .set st => some { d with store := d.store.set st }
  | .commit => some d.committed
  | .flash f =>
    if f.region? .config = d.flash.region? .config then some { d with flash := f } else none
  | .mark => some { d with power := d.power.markDirty }
  | .ask s => some { d with power := d.power.ask s, callers := d.callers + 1 }
  | .signal =>
    match d.callers with
    | callers + 1 => some { d with power := d.power.signal, callers }
    | 0 => none
  | .wake =>
    if d.stand = .parked ∧ d.power.permit then
      some { d with power := d.power.wake, stand := .woken } else none
  | .take =>
    if d.stand = .woken then
      some { d with power := d.power.take.2, stand := .took d.power.take.1 } else none
  | .drain =>
    match d.stand with
    | .took s => some { d with power := d.power.clearDirty, stand := .drained s d.power.dirty }
    | _ => none
  | .write =>
    match d.stand with
    | .drained s dirty =>
      let d := if dirty then d.committed else d
      some { d with stand := .serving s }
    | _ => none
  | .execute =>
    match d.stand with
    | .announced _ => some { d with stand := .parked }
    | _ => none
  | .quit => if d.stand = .parked then some { d with stand := .gone } else none

def run (d : Daemon) : List Move → Option Daemon
  | [] => some d
  | m :: moves => (d.step m).bind (·.run moves)

/-- The transition that the move carries out. -/
def executes? (d : Daemon) : Move → Option PowerState
  | .execute =>
    match d.stand with
    | .announced s => some s
    | _ => none
  | _ => none

/-- What a move makes of the daemon. -/
inductive Moves (d : Daemon) : Move → Daemon → Prop
  | set (st : Settings) : Moves d (.set st) { d with store := d.store.set st }
  | commit : Moves d .commit d.committed
  | flash (f : Nor) : f.region? .config = d.flash.region? .config →
      Moves d (.flash f) { d with flash := f }
  | mark : Moves d .mark { d with power := d.power.markDirty }
  | ask (s : PowerState) :
      Moves d (.ask s) { d with power := d.power.ask s, callers := d.callers + 1 }
  | signal (callers : Nat) : d.callers = callers + 1 →
      Moves d .signal { d with power := d.power.signal, callers }
  | wake : d.stand = .parked → d.power.permit →
      Moves d .wake { d with power := d.power.wake, stand := .woken }
  | take : d.stand = .woken →
      Moves d .take { d with power := d.power.take.2, stand := .took d.power.take.1 }
  | drain (s : PowerState) : d.stand = .took s →
      Moves d .drain { d with power := d.power.clearDirty, stand := .drained s d.power.dirty }
  | write (s : PowerState) : d.stand = .drained s true →
      Moves d .write { d.committed with stand := .serving s }
  | skip (s : PowerState) : d.stand = .drained s false →
      Moves d .write { d with stand := .serving s }
  | execute (s : PowerState) : d.stand = .announced s → Moves d .execute { d with stand := .parked }
  | quit : d.stand = .parked → Moves d .quit { d with stand := .gone }

variable {d e : Daemon} {m : Move} {moves more : List Move}

theorem step_flash {f : Nor} (same : f.region? .config = d.flash.region? .config) :
    d.step (.flash f) = some { d with flash := f } := if_pos same

theorem moves_of_step (stepped : d.step m = some e) : d.Moves m e := by
  cases m with
  | set st | commit | mark | ask s =>
      cases stepped
      constructor
  | flash f =>
      obtain ⟨kept, ⟨⟩⟩ := Option.ite_none_right_eq_some.mp stepped
      exact .flash f kept
  | signal =>
      simp only [step] at stepped
      split at stepped
      next callers some =>
        cases stepped
        exact .signal callers some
      next => cases stepped
  | wake =>
      obtain ⟨⟨parked, permit⟩, ⟨⟩⟩ := Option.ite_none_right_eq_some.mp stepped
      exact .wake parked permit
  | take =>
      obtain ⟨woken, ⟨⟩⟩ := Option.ite_none_right_eq_some.mp stepped
      exact .take woken
  | drain | execute =>
      simp only [step] at stepped
      split at stepped
      next s stands =>
        cases stepped
        constructor
        exact stands
      next => cases stepped
  | write =>
      simp only [step] at stepped
      split at stepped
      next s dirty stands =>
        cases stepped
        cases dirty with
        | true => exact .write s stands
        | false => exact .skip s stands
      next => cases stepped
  | quit =>
      obtain ⟨parked, ⟨⟩⟩ := Option.ite_none_right_eq_some.mp stepped
      exact .quit parked

theorem run_cons (ran : d.run (m :: moves) = some e) :
    ∃ next, d.step m = some next ∧ next.run moves = some e :=
  Option.bind_eq_some_iff.mp ran

@[simp]
theorem run_append : d.run (moves ++ more) = (d.run moves).bind (·.run more) := by
  induction moves generalizing d with
  | nil => rfl
  | cons m moves ih =>
      simp only [List.cons_append, run, Option.bind_assoc]
      exact Option.bind_congr fun _ _ => ih

/-- The clients lead the daemon on, wherever it stands, and ask for these transitions. -/
def Called (asked : List PowerState) (before after : Stand → Daemon) : Prop :=
  ∃ moves : List Move, (∀ m ∈ moves, m.isClient) ∧ moves.filterMap (·.asks?) = asked ∧
    ∀ stand, (before stand).run moves = some (after stand)

theorem Called.refl (d : Stand → Daemon) : Called [] d d := ⟨[], by simp, rfl, fun _ => rfl⟩

theorem Called.trans {asked others : List PowerState} {before between after : Stand → Daemon}
    (first : Called asked before between) (second : Called others between after) :
    Called (asked ++ others) before after := by
  obtain ⟨moves, clients, rfl, ran⟩ := first
  obtain ⟨later, others, rfl, further⟩ := second
  refine ⟨moves ++ later, ?_, List.filterMap_append, fun stand => by simp [ran, further]⟩
  intro m found
  rcases List.mem_append.mp found with here | there
  · exact clients m here
  · exact others m there

end Daemon
end ConnectedDevice
