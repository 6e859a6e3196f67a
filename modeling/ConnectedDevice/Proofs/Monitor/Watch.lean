import ConnectedDevice.Device.Tasks
import ConnectedDevice.Proofs.Device.Basic

/-!
The monitor among its clients, and what each move does to it. Clients register checkpoints and
refresh them at any time; runs of the monitor look at all checkpoints when their time has come;
everything else may happen in between.
-/

namespace ConnectedDevice

/-- A monitor with its runs, on the site of its system. -/
structure Watch where
  site : Site
  /-- how far each run came -/
  runs : List TaskStep

namespace Watch

inductive Move where
  | register (name : String) (maxDelay : Nat)
  | update (handle maxDelay : Nat)
  /-- a further run starts -/
  | start
  /-- a run whose time has come goes on -/
  | resume (run : Nat)
  | pass (time : Nat)
  /-- what others do at the site, which have no hold on the monitor, the watchdog and the clock -/
  | other (site : Site)

variable (w : Watch)

def monitor : Monitor := w.site.device.monitor

def checkpoints : List Checkpoint := w.monitor.checkpoints

def now : Nat := w.site.board.now

def reloads : Nat := w.site.board.reloads

/-- A new monitor of a system. -/
def make (s : Site) (period : Nat) : Watch :=
  ⟨{ s with device := { s.device with monitor := .make period } }, []⟩

/-- The handle that a registration gives, unless it fails. -/
def handle? (name : String) (maxDelay : Nat) : Option Nat :=
  ((Device.registerCheckpoint name maxDelay).run w.site).1.toOption

/-- The answer to an update. -/
def refreshes (handle maxDelay : Nat) : Bool := (Device.updateCheckpoint handle maxDelay w.site).1

def step : Move → Option Watch
  | .register name maxDelay =>
    some { w with site := ((Device.registerCheckpoint name maxDelay).run w.site).2 }
  | .update handle maxDelay =>
    some { w with site := (Device.updateCheckpoint handle maxDelay w.site).2 }
  | .start => some { w with runs := w.runs ++ [.waits (.monitor none)] }
  | .resume k =>
    match w.runs[k]? with
    | some (.waits (.monitor due)) =>
      if (Task.monitor due).isReady w.site.device w.now then
        let resumed := Device.resumeMonitor due w.site
        some ⟨resumed.2, w.runs.set k resumed.1⟩
      else none
    | _ => none
  | .pass time =>
    some { w with site := { w.site with board := { w.site.board with now := w.now + time } } }
  | .other site =>
    if site.device.monitor = w.monitor ∧ site.board.reloads = w.reloads ∧
        site.board.now = w.now then
      some { w with site }
    else none

def run (w : Watch) : List Move → Option Watch
  | [] => some w
  | m :: moves => (w.step m).bind (·.run moves)

/-- A checkpoint after a move of its clients, if `handle` is its own. -/
def refreshed (handle : Nat) (c : Checkpoint) : Move → Checkpoint
  | .update h maxDelay =>
    if h = handle ∧ w.refreshes handle maxDelay then { c with lastUpdate := w.now, maxDelay } else c
  | _ => c

/-- A checkpoint after some moves, if `handle` is its own. -/
def followed (handle : Nat) (w : Watch) (c : Checkpoint) : List Move → Checkpoint
  | [] => c
  | m :: moves =>
    match w.step m with
    | some next => next.followed handle (w.refreshed handle c m) moves
    | none => c

end Watch

/-! What the acts do at the site -/

def Site.setMonitor (s : Site) (monitor : Monitor) : Site :=
  { s with device := { s.device with monitor } }

namespace Device

variable {s : Site}

theorem registerCheckpoint_run (name : String) (maxDelay : Nat) :
    (registerCheckpoint name maxDelay).run s =
      match s.device.monitor.register name maxDelay s.board.now with
      | .ok (handle, monitor) => (.ok handle, s.setMonitor monitor)
      | .error e => (.error e, s) := by
  have called : (registerCheckpoint name maxDelay).run s =
      (Fallible.ofExcept (s.device.monitor.register name maxDelay s.board.now) >>=
        fun registered => do
          liftM (Act.modifyDevice fun d => { d with monitor := registered.2 })
          return registered.1 : Fallible Nat).run s := rfl
  rw [called, Fallible.bind_apply]
  cases s.device.monitor.register name maxDelay s.board.now <;> rfl

theorem checkMonitor_apply : checkMonitor s =
    match s.device.monitor.expired? s.board.now with
    | some name => (.ends (.error (.monitorExpired name)), s)
    | none => (.waits (.monitor (some (s.board.now + s.device.monitor.period))),
        { s with board := { s.board with reloads := s.board.reloads + 1 } }) := by
  rw [checkMonitor, Act.device_bind, Act.bind_apply]
  have clock : (Act.now s).1 = s.board.now := rfl
  rw [clock]
  cases s.device.monitor.expired? s.board.now <;> rfl

/-- The site after the watchdog was to be armed, if it was not yet. -/
def armed (due : Option Nat) (s : Site) : Site :=
  if due.isNone then
    { s with
      board := (s.board.issue
        (.armWatchdog (s.device.monitor.period + limits.watchdogMargin))).2 }
  else s

@[simp] theorem device_armed (due : Option Nat) : (armed due s).device = s.device := by
  cases due <;> rfl

@[simp] theorem now_armed (due : Option Nat) : (armed due s).board.now = s.board.now := by
  cases due <;> rfl

@[simp] theorem reloads_armed (due : Option Nat) :
    (armed due s).board.reloads = s.board.reloads := by
  cases due <;> rfl

/-- A run that waits until `due` looks at the checkpoints next: it is not told to end, there is a
period, and the watchdog is armed or can be. -/
def Looks (due : Option Nat) (s : Site) : Prop :=
  s.device.stopped = false ∧ s.device.monitor.period ≠ 0 ∧
    (due = none → (s.board.hardware.answer
      (.armWatchdog (s.device.monitor.period + limits.watchdogMargin))).isOk)

theorem resumeMonitor_armed (due : Nat) : resumeMonitor (some due) s =
    if s.device.stopped || s.device.monitor.period == 0 then (.ends (.ok ()), s)
    else checkMonitor s := by
  rw [resumeMonitor, Act.device_bind]
  simp only [Option.isNone_some, Bool.false_eq_true, if_false]
  split <;> rfl

theorem resumeMonitor_first : resumeMonitor none s =
    match s.board.hardware.answer
        (.armWatchdog (s.device.monitor.period + limits.watchdogMargin)) with
    | .error e => (.ends (.error e), armed none s)
    | .ok _ =>
      if s.device.stopped || s.device.monitor.period == 0 then (.ends (.ok ()), armed none s)
      else checkMonitor (armed none s) := by
  have asked : (Act.issue (.armWatchdog (s.device.monitor.period + limits.watchdogMargin))).run s =
      (s.board.hardware.answer
        (.armWatchdog (s.device.monitor.period + limits.watchdogMargin)), armed none s) := rfl
  rw [resumeMonitor, Act.device_bind]
  simp only [Option.isNone_none, if_true, Act.bind_apply, asked]
  cases s.board.hardware.answer (.armWatchdog (s.device.monitor.period + limits.watchdogMargin)) with
  | error e => rfl
  | ok _ =>
      dsimp only
      split <;> rfl

theorem resumeMonitor_of_looks {due : Option Nat} (looks : Looks due s) :
    resumeMonitor due s = checkMonitor (armed due s) := by
  obtain ⟨running, period, arms⟩ := looks
  cases due with
  | some due => simp [resumeMonitor_armed, armed, running, period]
  | none =>
      have accepted := arms rfl
      rw [resumeMonitor_first]
      split
      next refused => simp [refused, Except.isOk, Except.toBool] at accepted
      next => simp [running, period]

theorem resumeMonitor_of_not_looks {due : Option Nat} (leaves : ¬Looks due s) :
    ∃ result, resumeMonitor due s = (.ends result, armed due s) := by
  cases due with
  | some due =>
      rw [resumeMonitor_armed]
      cases ends : s.device.stopped || s.device.monitor.period == 0 with
      | true => exact ⟨.ok (), rfl⟩
      | false => exact absurd (by simpa [Looks] using ends) leaves
  | none =>
      rw [resumeMonitor_first]
      split
      next e refused => exact ⟨.error e, rfl⟩
      next accepted =>
        cases ends : s.device.stopped || s.device.monitor.period == 0 with
        | true => exact ⟨.ok (), rfl⟩
        | false =>
            exact absurd (by simpa [Looks, accepted, Except.isOk, Except.toBool] using ends) leaves

end Device

namespace Watch

variable {w next p q : Watch} {m : Move} {moves after : List Move}

/-- The checkpoints after a move of the clients. -/
def changed (w : Watch) : Move → List Checkpoint
  | .register name maxDelay =>
    if limits.monitors ≤ w.checkpoints.length then w.checkpoints
    else w.checkpoints ++ [⟨name, w.now, maxDelay⟩]
  | .update handle maxDelay =>
    if w.refreshes handle maxDelay then
      w.checkpoints.modify handle fun c => { c with lastUpdate := w.now, maxDelay }
    else w.checkpoints
  | _ => w.checkpoints

/-- What a run makes of the watch when it goes on. -/
inductive Resumed (w : Watch) (k : Nat) (due : Option Nat) (next : Watch) : Prop
  | alive : Device.Looks due w.site → (∀ c ∈ w.checkpoints, c.isExpired w.now = false) →
      next.reloads = w.reloads + 1 →
      next.runs = w.runs.set k (.waits (.monitor (some (w.now + w.monitor.period)))) →
      Resumed w k due next
  | expired (name : String) : Device.Looks due w.site → w.monitor.expired? w.now = some name →
      next.reloads = w.reloads →
      next.runs = w.runs.set k (.ends (.error (.monitorExpired name))) → Resumed w k due next
  | left (result : Except Error Unit) : ¬Device.Looks due w.site → next.reloads = w.reloads →
      next.runs = w.runs.set k (.ends result) → Resumed w k due next

theorem refreshes_eq (handle maxDelay : Nat) : w.refreshes handle maxDelay =
    (w.checkpoints[handle]?).any fun c => !c.isExpired w.now := by
  have same : w.refreshes handle maxDelay = (w.monitor.update handle maxDelay w.now).1 := rfl
  have entries : w.monitor.checkpoints = w.checkpoints := rfl
  rw [same, Monitor.update, entries]
  cases w.checkpoints[handle]? with
  | none => rfl
  | some c =>
      dsimp only
      split
      next expired => simp [expired]
      next alive => simp [alive]

theorem expired?_eq_none : w.monitor.expired? w.now = none ↔
    ∀ c ∈ w.checkpoints, c.isExpired w.now = false := by
  simp [Monitor.expired?, checkpoints]

theorem registered (name : String) (maxDelay : Nat) :
    (Device.registerCheckpoint name maxDelay).run w.site =
      if limits.monitors ≤ w.checkpoints.length then (.error (.monitorFull name), w.site)
      else (.ok w.checkpoints.length, w.site.setMonitor { w.monitor with
        checkpoints := w.checkpoints ++ [⟨name, w.now, maxDelay⟩] }) := by
  rw [Device.registerCheckpoint_run, Monitor.register]
  by_cases full : limits.monitors ≤ w.checkpoints.length
  · rw [if_pos full]
    simp only [if_pos (show limits.monitors ≤ w.site.device.monitor.checkpoints.length from full)]
  · rw [if_neg full]
    simp only [if_neg (show ¬limits.monitors ≤ w.site.device.monitor.checkpoints.length from full)]
    rfl

theorem handle?_eq (name : String) (maxDelay : Nat) : w.handle? name maxDelay =
    if limits.monitors ≤ w.checkpoints.length then none else some w.checkpoints.length := by
  rw [handle?, registered]
  split <;> rfl

theorem resumed_of_step {k : Nat} (stepped : w.step (.resume k) = some next) :
    ∃ due, w.runs[k]? = some (.waits (.monitor due)) ∧ w.Resumed k due next ∧
      next.checkpoints = w.checkpoints ∧ next.now = w.now := by
  simp only [step] at stepped
  split at stepped
  next due waits =>
    obtain ⟨-, same⟩ := Option.ite_none_right_eq_some.mp stepped
    have same := Option.some.inj same
    subst same
    refine ⟨due, waits, ?_⟩
    by_cases looks : Device.Looks due w.site
    · rw [Device.resumeMonitor_of_looks looks, Device.checkMonitor_apply]
      simp only [Device.device_armed, Device.now_armed, Device.reloads_armed]
      cases found : w.site.device.monitor.expired? w.site.board.now with
      | some name =>
          refine ⟨.expired name looks found ?_ rfl, ?_, ?_⟩
          · simp [reloads]
          · simp [checkpoints, monitor]
          · simp [now]
      | none =>
          refine ⟨.alive looks (expired?_eq_none.mp found) rfl rfl, ?_, ?_⟩
          · simp [checkpoints, monitor]
          · simp [now]
    · obtain ⟨result, resumed⟩ := Device.resumeMonitor_of_not_looks looks
      rw [resumed]
      refine ⟨.left result looks ?_ rfl, ?_, ?_⟩
      · simp [reloads]
      · simp [checkpoints, monitor]
      · simp [now]
  next => cases stepped

theorem checkpoints_update (handle maxDelay : Nat) :
    (w.monitor.update handle maxDelay w.now).2.checkpoints = w.changed (.update handle maxDelay) := by
  have entries : w.monitor.checkpoints = w.checkpoints := rfl
  rw [changed, refreshes_eq, Monitor.update, entries]
  cases here : w.checkpoints[handle]? with
  | none => rfl
  | some c =>
      cases expired : c.isExpired w.now with
      | true => simp [expired, checkpoints]
      | false =>
          have placed : w.checkpoints.set handle { c with lastUpdate := w.now, maxDelay } =
              w.checkpoints.modify handle fun c => { c with lastUpdate := w.now, maxDelay } := by
            refine List.ext_getElem? fun i => ?_
            rw [List.getElem?_set, List.getElem?_modify]
            by_cases same : handle = i
            · subst same
              obtain ⟨inside, found⟩ := List.getElem?_eq_some_iff.mp here
              simp [inside, found]
            · simp [same]
          simp only [expired, Bool.false_eq_true, if_false, Option.any_some, Bool.not_false, if_true]
          exact placed

theorem checkpoints_step (stepped : w.step m = some next) : next.checkpoints = w.changed m := by
  cases m with
  | register name maxDelay =>
      cases stepped
      simp only [changed, registered]
      split <;> rfl
  | update handle maxDelay =>
      cases stepped
      exact checkpoints_update handle maxDelay
  | start => cases stepped; rfl
  | resume k =>
      obtain ⟨-, -, -, same, -⟩ := resumed_of_step stepped
      exact same
  | pass time => cases stepped; rfl
  | other site =>
      obtain ⟨⟨same, -, -⟩, ⟨⟩⟩ := Option.ite_none_right_eq_some.mp stepped
      exact congrArg Monitor.checkpoints same

theorem now_step (stepped : w.step m = some next) : w.now ≤ next.now := by
  cases m with
  | register name maxDelay =>
      cases stepped
      simp only [registered, now]
      split <;> exact Nat.le_refl _
  | update handle maxDelay => cases stepped; exact Nat.le_refl _
  | start => cases stepped; exact Nat.le_refl _
  | resume k =>
      obtain ⟨-, -, -, -, same⟩ := resumed_of_step stepped
      exact Nat.le_of_eq same.symm
  | pass time => cases stepped; exact Nat.le_add_right _ _
  | other site =>
      obtain ⟨⟨-, -, same⟩, ⟨⟩⟩ := Option.ite_none_right_eq_some.mp stepped
      exact Nat.le_of_eq same.symm

/-- Only a run that looked at the checkpoints reloads the watchdog. -/
theorem reloads_step (stepped : w.step m = some next) : next.reloads = w.reloads ∨
    (∃ k, m = .resume k) ∧ next.reloads = w.reloads + 1 ∧
      ∀ c ∈ w.checkpoints, c.isExpired w.now = false := by
  cases m with
  | register name maxDelay =>
      cases stepped
      simp only [registered, reloads]
      split <;> exact .inl rfl
  | update handle maxDelay => cases stepped; exact .inl rfl
  | start => cases stepped; exact .inl rfl
  | resume k =>
      obtain ⟨due, -, resumed, -, -⟩ := resumed_of_step stepped
      cases resumed with
      | alive _ alive reloaded _ => exact .inr ⟨⟨k, rfl⟩, reloaded, alive⟩
      | expired _ _ _ same _ => exact .inl same
      | left _ _ same _ => exact .inl same
  | pass time => cases stepped; exact .inl rfl
  | other site =>
      obtain ⟨⟨-, same, -⟩, ⟨⟩⟩ := Option.ite_none_right_eq_some.mp stepped
      exact .inl same

/-- A run that ended does not start again. -/
theorem ended_step {k : Nat} {result : Except Error Unit} (stepped : w.step m = some next)
    (ended : w.runs[k]? = some (.ends result)) : next.runs[k]? = some (.ends result) := by
  have inside := (List.getElem?_eq_some_iff.mp ended).1
  cases m with
  | register name maxDelay => cases stepped; exact ended
  | update handle maxDelay => cases stepped; exact ended
  | start =>
      cases stepped
      exact (List.getElem?_append_left inside).trans ended
  | resume j =>
      obtain ⟨due, waits, resumed, -, -⟩ := resumed_of_step stepped
      have other : j ≠ k := by
        rintro rfl
        cases ended.symm.trans waits
      have kept (step : TaskStep) : (w.runs.set j step)[k]? = some (.ends result) := by
        rw [List.getElem?_set_ne other, ended]
      cases resumed with
      | alive _ _ _ runs | expired _ _ _ _ runs | left _ _ _ runs =>
          rw [runs]
          exact kept _
  | pass time => cases stepped; exact ended
  | other site =>
      obtain ⟨-, ⟨⟩⟩ := Option.ite_none_right_eq_some.mp stepped
      exact ended

theorem length_step (stepped : w.step m = some next)
    (room : w.checkpoints.length ≤ limits.monitors) :
    next.checkpoints.length ≤ limits.monitors := by
  rw [checkpoints_step stepped]
  cases m with
  | register name maxDelay =>
      rw [changed]
      split
      next => exact room
      next free =>
        rw [List.length_append, List.length_singleton]
        omega
  | update handle maxDelay =>
      rw [changed]
      split
      · rwa [List.length_modify]
      · exact room
  | start | resume _ | pass _ | other _ => exact room

/-- A checkpoint keeps its place, and only updates of its own handle change it. -/
theorem getElem?_step {handle : Nat} {c : Checkpoint} (stepped : w.step m = some next)
    (here : w.checkpoints[handle]? = some c) :
    next.checkpoints[handle]? = some (w.refreshed handle c m) := by
  rw [checkpoints_step stepped]
  cases m with
  | register name maxDelay =>
      rw [changed]
      split
      · exact here
      · exact (List.getElem?_append_left (List.getElem?_eq_some_iff.mp here).1).trans here
  | update h maxDelay =>
      rw [changed, refreshed]
      by_cases own : h = handle
      · subst own
        simp only [true_and]
        split
        · rw [List.getElem?_modify_eq, here]
          rfl
        · exact here
      · simp only [own, false_and, if_false]
        split
        · rw [List.getElem?_modify_ne (h := own), here]
        · exact here
  | start | resume _ | pass _ | other _ => exact here

theorem refreshes_of_expired {handle maxDelay : Nat} {c : Checkpoint}
    (here : w.checkpoints[handle]? = some c) (expired : c.isExpired w.now) :
    w.refreshes handle maxDelay = false := by
  rw [refreshes_eq, here]
  simp [expired]

theorem refreshed_of_expired {handle : Nat} {c : Checkpoint}
    (here : w.checkpoints[handle]? = some c) (expired : c.isExpired w.now) :
    w.refreshed handle c m = c := by
  cases m with
  | update h maxDelay => simp [refreshed, refreshes_of_expired here expired]
  | register _ _ | start | resume _ | pass _ | other _ => rfl

/-- Time does not mend what it broke. -/
theorem isExpired_mono {c : Checkpoint} {t t' : Nat} (expired : c.isExpired t) (later : t ≤ t') :
    c.isExpired t' := by
  simp only [Checkpoint.isExpired, decide_eq_true_eq] at expired ⊢
  omega

end Watch
end ConnectedDevice
