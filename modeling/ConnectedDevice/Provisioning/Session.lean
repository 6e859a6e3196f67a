import ConnectedDevice.Device.Options
import ConnectedDevice.Notification.Basic

/-!
One attempt of a provisioning run. Its two questions are whether credentials arrived, which is
decided once, and whether the network was joined. The task that waits for an answer is woken by a
single stored permit, which either answer leaves.
-/

namespace ConnectedDevice

/-- How a provisioning run ends. -/
inductive Outcome where
  /-- the stored network was joined directly -/
  | bypassed
  | connected
  | softApConnected
  /-- the settings from before the run hold again, and their network is joined -/
  | rolledBack
  /-- there was no network before the run -/
  | poweredDown
  | cancelled
deriving DecidableEq, Repr

def Outcome.all : List Outcome :=
  [.bypassed, .connected, .softApConnected, .rolledBack, .poweredDown, .cancelled]

inductive Stage where
  | pending
  | succeeded
  | failed
deriving DecidableEq, Repr

structure Session where
  stage : Stage
  connected : Bool
  /-- how often the session was decided -/
  signals : Nat
  permit : Bool
deriving DecidableEq, Repr

namespace Session

def fresh : Session := ⟨.pending, false, 0, false⟩

def isDecided (s : Session) : Bool := s.stage != .pending

/-- Decides the session. Only the first decision counts. -/
def finish (s : Session) (success : Bool) : Session :=
  if s.isDecided then s
  else
    { s with
      stage := if success then .succeeded else .failed
      signals := s.signals + 1
      permit := true }

def connect (s : Session) : Session := { s with connected := true, permit := true }

def takePermit (s : Session) : Session := { s with permit := false }

end Session

/-- A provisioning run, as its handle shows it. -/
structure Run where
  method : Option DiscoveryMethod
  session : Session
  cancelled : Bool
  /-- the registrations that the run holds -/
  subscriptions : List (NotificationKind × Nat)
  /-- nothing while the run goes on -/
  outcome : Option Outcome
deriving DecidableEq, Repr

end ConnectedDevice
