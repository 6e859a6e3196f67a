/-!
Requests for power transitions. The daemon that applies them is woken by a single stored permit; a
request replaces an earlier one that was not taken yet.
-/

namespace ConnectedDevice

inductive PowerState where
  | normal
  | softwareReset
  | wlanPowerdown
  | standby
deriving DecidableEq, Repr, Inhabited

structure PowerRequests where
  requested : PowerState
  /-- changed settings wait to be committed before the next transition -/
  dirty : Bool
  permit : Bool
deriving DecidableEq, Repr

namespace PowerRequests

def none : PowerRequests := ⟨.normal, false, false⟩

def request (p : PowerRequests) (s : PowerState) : PowerRequests :=
  { p with requested := s, permit := true }

def markDirty (p : PowerRequests) : PowerRequests := { p with dirty := true }

/-- Takes the stored permit. -/
def wake (p : PowerRequests) : PowerRequests := { p with permit := false }

/-- Takes the request and leaves nothing to do. -/
def take (p : PowerRequests) : PowerState × PowerRequests :=
  (p.requested, { p with requested := .normal })

def clearDirty (p : PowerRequests) : PowerRequests := { p with dirty := false }

end PowerRequests
end ConnectedDevice
