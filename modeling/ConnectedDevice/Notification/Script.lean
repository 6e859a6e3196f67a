import ConnectedDevice.Notification.Center

/-!
Callbacks as data. A callback carries a label and what it does to the notification center, which may
be to dispatch again. A dispatch runs the callbacks that are registered when it starts, each to its
end before the next. The dispatches under way form a stack, and every step takes the top of it one
action further.
-/

namespace ConnectedDevice.Script

inductive Action where
  | register (label : String) (kind : NotificationKind) (actions : List Action)
  /-- of the registration made last under the label -/
  | remove (label : String) (kind : NotificationKind)
  | removeAll (kind : NotificationKind)
  | count (kind : NotificationKind)
  | dispatch (notification : Notification)

structure Callback where
  label : String
  actions : List Action

inductive Answer where
  | registered (id : Nat)
  | refused (error : Error)
  /-- whether the label is known -/
  | removed (known : Bool)
  | counted (n : Nat)
  | done
deriving DecidableEq, Repr

inductive Mark where
  | started (label : String) (kind : NotificationKind)
  | answered (label : String) (answer : Answer)
  | finished (label : String)
deriving DecidableEq, Repr

/-- What is under way, innermost first. -/
inductive Frame where
  /-- callbacks of one dispatch that are still to run -/
  | pending (kind : NotificationKind) (callbacks : List Callback)
  /-- actions of a running callback that are still to do -/
  | running (label : String) (actions : List Action)
  /-- a callback waits for the end of its own dispatch -/
  | awaiting (label : String)

structure Stage where
  center : Center Callback
  /-- the last registration under each label -/
  labels : List (String × Nat)
  trace : List Mark
  stack : List Frame

namespace Stage

def empty (capacity : Nat) : Stage := ⟨.empty capacity, [], [], []⟩

def mark (s : Stage) (m : Mark) : Stage := { s with trace := s.trace ++ [m] }

def push (s : Stage) (f : Frame) : Stage := { s with stack := f :: s.stack }

def startDispatch (s : Stage) (n : Notification) : Stage :=
  s.push (.pending n.kind (s.center.callbacks n.kind))

/-- An action that ends at once, and its answer; nothing for a dispatch. -/
def perform (s : Stage) : Action → Option (Answer × Stage)
  | .register label kind actions =>
    match s.center.register kind ⟨label, actions⟩ with
    | .ok (id, center) =>
      some (.registered id, { s with center, labels := (label, id) :: s.labels })
    | .error e => some (.refused e, s)
  | .remove label kind =>
    match s.labels.lookup label with
    | some id => some (.removed true, { s with center := s.center.remove kind id })
    | none => some (.removed false, s)
  | .removeAll kind => some (.done, { s with center := s.center.removeAll kind })
  | .count kind => some (.counted (s.center.count kind), s)
  | .dispatch _ => none

/-- One step of what is under way. -/
def step (s : Stage) : Stage :=
  match s.stack with
  | [] => s
  | frame :: rest =>
    let s := { s with stack := rest }
    match frame with
    | .pending _ [] => s
    | .pending kind (c :: callbacks) =>
      ((s.push (.pending kind callbacks)).push (.running c.label c.actions)).mark
        (.started c.label kind)
    | .running label [] => s.mark (.finished label)
    | .running label (a :: actions) =>
      let s := s.push (.running label actions)
      match a with
      | .dispatch n => (s.push (.awaiting label)).startDispatch n
      | a =>
        match s.perform a with
        | some (answer, s) => s.mark (.answered label answer)
        | none => s
    | .awaiting label => s.mark (.answered label .done)

def steps : Nat → Stage → Stage
  | 0, s => s
  | fuel + 1, s => if s.stack.isEmpty then s else steps fuel s.step

/-- An action from outside of all callbacks. Its dispatch is taken to its end, if `fuel` steps are
enough for it. -/
def act (fuel : Nat) (s : Stage) (a : Action) : Answer × Stage :=
  match a with
  | .dispatch n => (.done, steps fuel (s.startDispatch n))
  | a => (s.perform a).getD (.done, s)

end Stage
end ConnectedDevice.Script
