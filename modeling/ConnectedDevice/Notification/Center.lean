import ConnectedDevice.Error

/-!
The notification center: an ordered registry of callbacks. A kind of notification holds callbacks up
to a capacity, in the order of their registration, and every registration has a number of its own.
-/

namespace ConnectedDevice

structure Subscription (α : Type) where
  id : Nat
  kind : NotificationKind
  callback : α
deriving DecidableEq, Repr

structure Center (α : Type) where
  /-- the number of callbacks that a kind can hold -/
  capacity : Nat
  nextId : Nat
  /-- in the order of registration -/
  subscriptions : List (Subscription α)

namespace Center

variable {α : Type}

def empty (capacity : Nat) : Center α := ⟨capacity, 0, []⟩

def subscribers (c : Center α) (kind : NotificationKind) : List (Subscription α) :=
  c.subscriptions.filter (·.kind == kind)

def count (c : Center α) (kind : NotificationKind) : Nat := (c.subscribers kind).length

/-- The callbacks that a notification of the kind runs, in order. -/
def callbacks (c : Center α) (kind : NotificationKind) : List α :=
  (c.subscribers kind).map (·.callback)

def register (c : Center α) (kind : NotificationKind) (callback : α) :
    Except Error (Nat × Center α) :=
  if c.capacity ≤ c.count kind then .error (.kindFull kind c.capacity)
  else
    .ok (c.nextId,
      { c with
        nextId := c.nextId + 1
        subscriptions := c.subscriptions ++ [⟨c.nextId, kind, callback⟩] })

/-- Removes a registration. An unknown one changes nothing. -/
def remove (c : Center α) (kind : NotificationKind) (id : Nat) : Center α :=
  { c with subscriptions := c.subscriptions.filter fun s => !(s.kind == kind && s.id == id) }

def removeAll (c : Center α) (kind : NotificationKind) : Center α :=
  { c with subscriptions := c.subscriptions.filter fun s => !(s.kind == kind) }

end Center
end ConnectedDevice
