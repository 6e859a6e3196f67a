import ConnectedDevice.Provisioning.Session

/-!
A session among the callbacks that answer it and the task that waits for an answer, at the grain at
which they interleave. A decision and its permit are one move, since the callback holds the lock for
both; the flag that the network was joined is raised in one move and signalled in another. The task
looks at the session before it parks, and again whenever it took the permit.
-/

namespace ConnectedDevice

namespace Session

/-- The first half of `connect`. -/
def raise (s : Session) : Session := { s with connected := true }

/-- The second half of `connect`: it leaves the permit. -/
def signal (s : Session) : Session := { s with permit := true }

theorem connect_eq (s : Session) : s.connect = s.raise.signal := rfl

end Session

/-- What a task can wait for. -/
inductive Question where
  | decision
  | connection
deriving DecidableEq, Repr

def Question.holds : Question → Session → Bool
  | .decision, s => s.isDecided
  | .connection, s => s.connected

namespace Waiter

/-- Where the task stands. -/
inductive Stand where
  | busy
  /-- is about to look at the session -/
  | asks (q : Question)
  | parked (q : Question)
deriving DecidableEq, Repr

inductive Move where
  | finish (success : Bool)
  | raise
  | signal
  | ask (q : Question)
  | look
  | wake
  /-- the task is told to end, or has waited long enough -/
  | leave
  /-- the task opens a session of its own -/
  | renew
deriving DecidableEq, Repr

end Waiter

open Waiter (Stand Move)

structure Waiter where
  session : Session
  /-- the callbacks that have raised the flag and not signalled yet -/
  raised : Nat
  stand : Stand
deriving DecidableEq, Repr

namespace Waiter

def start : Waiter := ⟨.fresh, 0, .busy⟩

/-- The waiter after a move, if the move can be made. Callbacks that are under way when a session is
renewed signal the old one. -/
def step (w : Waiter) : Move → Option Waiter
  | .finish success => some { w with session := w.session.finish success }
  | .raise => some { w with session := w.session.raise, raised := w.raised + 1 }
  | .signal =>
    match w.raised with
    | raised + 1 => some { w with session := w.session.signal, raised }
    | 0 => none
  | .ask q => if w.stand = .busy then some { w with stand := .asks q } else none
  | .look =>
    match w.stand with
    | .asks q => some { w with stand := if q.holds w.session then .busy else .parked q }
    | _ => none
  | .wake =>
    match w.stand with
    | .parked q =>
      if w.session.permit then some { w with session := w.session.takePermit, stand := .asks q }
      else none
    | _ => none
  | .leave => some { w with stand := .busy }
  | .renew => if w.stand = .busy then some { w with session := .fresh, raised := 0 } else none

def run (w : Waiter) : List Move → Option Waiter
  | [] => some w
  | m :: moves => (w.step m).bind (·.run moves)

/-- What a move makes of the waiter. -/
inductive Moves (w : Waiter) : Move → Waiter → Prop
  | finish (success : Bool) :
      Moves w (.finish success) { w with session := w.session.finish success }
  | raise : Moves w .raise { w with session := w.session.raise, raised := w.raised + 1 }
  | signal (raised : Nat) : w.raised = raised + 1 →
      Moves w .signal { w with session := w.session.signal, raised }
  | ask (q : Question) : w.stand = .busy → Moves w (.ask q) { w with stand := .asks q }
  | answered (q : Question) : w.stand = .asks q → q.holds w.session →
      Moves w .look { w with stand := .busy }
  | parks (q : Question) : w.stand = .asks q → q.holds w.session = false →
      Moves w .look { w with stand := .parked q }
  | wake (q : Question) : w.stand = .parked q → w.session.permit →
      Moves w .wake { w with session := w.session.takePermit, stand := .asks q }
  | leave : Moves w .leave { w with stand := .busy }
  | renew : w.stand = .busy → Moves w .renew { w with session := .fresh, raised := 0 }

variable {w v : Waiter} {m : Move} {moves : List Move}

theorem moves_of_step (stepped : w.step m = some v) : w.Moves m v := by
  cases m with
  | finish success | raise | leave =>
      cases stepped
      constructor
  | signal =>
      simp only [step] at stepped
      split at stepped
      next raised some =>
        cases stepped
        exact .signal raised some
      next => cases stepped
  | ask q =>
      obtain ⟨busy, ⟨⟩⟩ := Option.ite_none_right_eq_some.mp stepped
      exact .ask q busy
  | look =>
      simp only [step] at stepped
      split at stepped
      next q asks =>
        cases stepped
        cases holds : q.holds w.session with
        | true => exact .answered q asks holds
        | false => exact .parks q asks holds
      next => cases stepped
  | wake =>
      simp only [step] at stepped
      split at stepped
      next q parked =>
        obtain ⟨permit, ⟨⟩⟩ := Option.ite_none_right_eq_some.mp stepped
        exact .wake q parked permit
      next => cases stepped
  | renew =>
      obtain ⟨busy, ⟨⟩⟩ := Option.ite_none_right_eq_some.mp stepped
      exact .renew busy

/-- The decisions on the present session, in order. -/
def addDecision (decisions : List Bool) : Move → List Bool
  | .finish success => decisions ++ [success]
  | .renew => []
  | _ => decisions

def decisions (moves : List Move) : List Bool := moves.foldl addDecision []

/-- How a session stands that was decided so. -/
def verdict : List Bool → Stage
  | [] => .pending
  | success :: _ => if success then .succeeded else .failed

/-- Only the first decision counts, and the task does not miss an answer. -/
structure Answers (decisions : List Bool) (w : Waiter) : Prop where
  stage : w.session.stage = verdict decisions
  signals : w.session.signals = min 1 decisions.length
  /-- a decision leaves the permit at once, and whoever raised the flag is about to leave it -/
  parked : ∀ q, w.stand = .parked q → q.holds w.session → w.session.permit ∨
    q = .connection ∧ w.raised ≠ 0

theorem Answers.isDecided {decisions : List Bool} (answers : Answers decisions w) :
    w.session.isDecided = !decisions.isEmpty := by
  rw [Session.isDecided, answers.stage]
  cases decisions with
  | nil => rfl
  | cons success rest => cases success <;> rfl

theorem Answers.start : Answers [] start := ⟨rfl, rfl, fun _ => nofun⟩

theorem Answers.finish {decisions : List Bool} (answers : Answers decisions w) (success : Bool) :
    Answers (decisions ++ [success]) { w with session := w.session.finish success } := by
  have decided := answers.isDecided
  obtain ⟨stage, signals, parked⟩ := answers
  cases decisions with
  | nil =>
      have first : w.session.finish success =
          { w.session with
            stage := if success then .succeeded else .failed
            signals := w.session.signals + 1
            permit := true } := by
        rw [Session.finish, decided]
        rfl
      rw [first]
      exact ⟨rfl, by simp [signals], fun _ _ _ => .inl rfl⟩
  | cons earlier rest =>
      have late : w.session.finish success = w.session := by
        rw [Session.finish, decided]
        rfl
      rw [late]
      exact ⟨stage, by simp [signals], parked⟩

theorem Answers.step {decisions : List Bool} (answers : Answers decisions w)
    (stepped : w.step m = some v) : Answers (addDecision decisions m) v := by
  cases moves_of_step stepped with
  | finish success => exact answers.finish success
  | raise =>
      obtain ⟨stage, signals, parked⟩ := answers
      refine ⟨stage, signals, fun q waits holds => ?_⟩
      cases q with
      | decision =>
          have permit : w.session.permit := by simpa using parked .decision waits holds
          exact .inl permit
      | connection => exact .inr ⟨rfl, Nat.succ_ne_zero _⟩
  | signal raised _ => exact ⟨answers.stage, answers.signals, fun _ _ _ => .inl rfl⟩
  | parks q _ missing =>
      refine ⟨answers.stage, answers.signals, fun _ waits holds => ?_⟩
      cases waits
      simp [missing] at holds
  | ask q _ | answered q _ _ | wake q _ _ | leave =>
      exact ⟨answers.stage, answers.signals, fun _ => nofun⟩
  | renew busy =>
      refine ⟨rfl, rfl, fun q waits _ => ?_⟩
      cases busy.symm.trans waits

theorem Answers.run {decisions : List Bool} (answers : Answers decisions w)
    (ran : w.run moves = some v) : Answers (moves.foldl addDecision decisions) v := by
  induction moves generalizing w decisions with
  | nil =>
      cases ran
      exact answers
  | cons m moves ih =>
      obtain ⟨next, stepped, ran⟩ := Option.bind_eq_some_iff.mp ran
      exact ih (answers.step stepped) ran

/-- A task that waits for what has come goes on. -/
theorem Answers.goesOn {decisions : List Bool} {q : Question} (answers : Answers decisions w)
    (waits : w.stand = .asks q ∨ w.stand = .parked q) (holds : q.holds w.session)
    (raised : w.raised = 0) :
    ∃ own ∈ [[Move.look], [.wake, .look]], ∃ v, w.run own = some v ∧ v.stand = .busy := by
  rcases waits with asks | parked
  · refine ⟨[.look], by simp, { w with stand := .busy }, ?_, rfl⟩
    simp [Waiter.run, Waiter.step, asks, holds]
  · have permit : w.session.permit := by simpa [raised] using answers.parked q parked holds
    have still : q.holds w.session.takePermit = true := by cases q <;> exact holds
    refine ⟨[.wake, .look], by simp, { w with session := w.session.takePermit, stand := .busy }, ?_,
      rfl⟩
    simp [Waiter.run, Waiter.step, parked, permit, still]

end Waiter
end ConnectedDevice
