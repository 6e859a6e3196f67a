import ConnectedDevice.Device.Boot
import ConnectedDevice.Device.Buttons
import ConnectedDevice.Device.Tasks
import ConnectedDevice.Server.Handlers

/-!
Systems on one board, and time. Notifications reach the handlers at once and in order; tasks run,
one at a time, until all of them wait; the clock then moves from one due time to the next.
-/

namespace ConnectedDevice

/-- A task that ended. -/
structure EndedTask where
  /-- the system that the task belonged to -/
  device : Nat
  /-- as it waited last -/
  task : Task
  result : Except Error Unit

structure World where
  board : Board
  devices : List Device
  /-- with the system that each belongs to -/
  tasks : List (Nat × Task)
  ended : List EndedTask

namespace World

/-- No task runs yet. -/
def make (board : Board) (devices : List Device) : World := ⟨board, devices, [], []⟩

/-- An act of the system with the number `i`, which is given as it stands. -/
def enter {α : Type} (w : World) (i : Nat) (d : Device) (act : Act α) : α × World :=
  let (x, site) := act ⟨i, w.board, d, []⟩
  (x,
    { w with
      board := site.board
      devices := w.devices.set i site.device
      tasks := w.tasks ++ site.spawned.map fun t => (i, t) })

/-- An act of a system, nothing if there is no such system. -/
def on {α : Type} (w : World) (i : Nat) (act : Act α) : Option (α × World) :=
  (w.devices[i]?).map fun d => w.enter i d act

def run (w : World) (i : Nat) (act : Act Unit) : World := ((w.on i act).map (·.2)).getD w

/-- An act of every system, in the order of their numbers. -/
def runAll (w : World) (act : Act Unit) : World :=
  (List.range w.devices.length).foldl (fun w i => w.run i act) w

/-! Notifications -/

def call (n : Notification) (w : World) : Handler → World
  | .application label => { w with board := (w.board.issue (.callback label n.kind)).2 }
  | .system i => w.run i (Device.react n)
  | .provisioning i run => w.run i (Provisioning.handle run n)

/-- Runs the handlers that are registered now, each to its end before the next. -/
def dispatch (w : World) (n : Notification) : World :=
  (w.board.center.callbacks n.kind).foldl (call n) w

/-! Tasks -/

/-- A power transition is announced a while before it is carried out. -/
def resumePower (w : World) (i : Nat) (d : Device) : PowerWait → World × TaskStep
  | .delaying _ state => (w.run i (Device.applyPower state), .waits (.power .idle))
  | .idle =>
    if d.stopped then (w, .ends (.ok ()))
    else
      match w.enter i d Device.takePowerRequest with
      | (.normal, w) => (w, .waits (.power .idle))
      | (state, w) =>
        let w := w.dispatch .systemWillPowerOff
        (w, .waits (.power (.delaying (w.board.now + limits.powerOffDelay) state)))

def resumeTask (w : World) (i : Nat) (d : Device) (t : Task) : World × TaskStep :=
  let act (a : Act TaskStep) : World × TaskStep := (w.enter i d a).swap
  match t with
  | .power wait => w.resumePower i d wait
  | .monitor due => act (Device.resumeMonitor due)
  | .checkpoint wait => act (Device.resumeCheckpoint wait)
  | .provisioning run wait => act (Device.resumeProvisioning run wait)
  | .linger _ => act (Device.unlessStopped (Act.tell (.withdraw .station)))
  | .softApJoin _ params => act (Device.unlessStopped (Device.leaveSoftAp params))

/-- Takes the task at a position to its next wait point, or out of the list. -/
def resume (w : World) (k : Nat) : World :=
  match w.tasks[k]? with
  | none => w
  | some (i, t) =>
    match w.devices[i]? with
    | none => { w with tasks := w.tasks.eraseIdx k }
    | some d =>
      match w.resumeTask i d t with
      | (w, .waits next) => { w with tasks := w.tasks.set k (i, next) }
      | (w, .ends result) =>
        { w with
          tasks := w.tasks.eraseIdx k
          ended := w.ended ++ [⟨i, t, result⟩] }

def isReady (w : World) (i : Nat) (t : Task) : Bool :=
  (w.devices[i]?).any fun d => t.isReady d w.board.now

/-- The position of the first task that can go on. -/
def firstReady? (w : World) : Option Nat := w.tasks.findIdx? fun (i, t) => w.isReady i t

def settleSteps : Nat → World → World
  | 0, w => w
  | fuel + 1, w =>
    match w.firstReady? with
    | none => w
    | some k => settleSteps fuel (w.resume k)

/-- A bound on the number of times that tasks are resumed while the clock stands. A task is woken by
a request, by a decision or by its time, of which each leaves at most a few. -/
def settleLimit (w : World) : Nat := 1000 + 10 * w.tasks.length

/-- Lets the tasks go on until all of them wait. -/
def settle (w : World) : World := settleSteps w.settleLimit w

/-! Time -/

def setNow (w : World) (now : Nat) : World := { w with board := { w.board with now } }

/-- The next time after now, up to `limit`, at which a task is due. -/
def nextDue? (w : World) (limit : Nat) : Option Nat :=
  ((w.tasks.filterMap (·.2.due?)).filter fun due => w.board.now < due && due ≤ limit).min?

def advanceSteps (target : Nat) : Nat → World → World
  | 0, w => w.setNow target
  | fuel + 1, w =>
    match w.nextDue? target with
    | none => w.setNow target
    | some due => advanceSteps target fuel (w.setNow due).settle

/-- Moves the clock to `target`. The tasks that become due on the way go on in the order of their
times. -/
def advanceTo (w : World) (target : Nat) : World := advanceSteps target (target - w.board.now) w

def advance (w : World) (time : Nat) : World := w.advanceTo (w.board.now + time)

/-! Systems -/

/-- When the last announced power transition of a system is carried out. -/
def transitionDue? (w : World) (i : Nat) : Option Nat :=
  (w.tasks.filterMap fun
    | (j, .power (.delaying due _)) => if j = i then some due else none
    | _ => none).max?

/-- Stops a system and waits for its tasks. A power transition that was announced comes first. -/
def shutdown (w : World) (i : Nat) : World :=
  let w := (w.run i Device.stop).settle
  match w.transitionDue? i with
  | some due => w.advanceTo due
  | none => w

/-- Starts a further system. One that does not come up is shut down. -/
def boot (w : World) (options : Options) (info : DeviceInfo) (hooked : Bool) :
    Except Error Nat × World :=
  let i := w.devices.length
  let d := Device.make options info hooked
  match { w with devices := w.devices ++ [d] }.enter i d Device.boot.run with
  | (.ok _, w) => (.ok i, w.settle)
  | (.error e, w) => (.error e, w.shutdown i)

end World
end ConnectedDevice
