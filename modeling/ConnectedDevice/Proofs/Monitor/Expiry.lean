import ConnectedDevice.Proofs.Monitor.Watch

/-!
What becomes of a monitor in the long run. A checkpoint that missed its time is never refreshed
again, whoever looked at it and whenever, so that a run that finds one ends, and no run reloads the
watchdog from then on.
-/

namespace ConnectedDevice

namespace Watch

variable {w p q : Watch} {m : Move} {moves : List Move}

theorem run_cons (ran : w.run (m :: moves) = some q) :
    ∃ next, w.step m = some next ∧ next.run moves = some q :=
  Option.bind_eq_some_iff.mp ran

theorem length_run (ran : w.run moves = some q) (room : w.checkpoints.length ≤ limits.monitors) :
    q.checkpoints.length ≤ limits.monitors := by
  induction moves generalizing w with
  | nil =>
      cases ran
      exact room
  | cons m moves ih =>
      obtain ⟨next, stepped, ran⟩ := run_cons ran
      exact ih ran (length_step stepped room)

theorem getElem?_run {handle : Nat} {c : Checkpoint} (ran : w.run moves = some q)
    (here : w.checkpoints[handle]? = some c) :
    q.checkpoints[handle]? = some (followed handle w c moves) := by
  induction moves generalizing w c with
  | nil =>
      cases ran
      exact here
  | cons m moves ih =>
      obtain ⟨next, stepped, ran⟩ := run_cons ran
      simp only [followed, stepped]
      exact ih ran (getElem?_step stepped here)

/-- An expired checkpoint stays as it is, and expired. -/
theorem expired_run {handle : Nat} {c : Checkpoint} (ran : w.run moves = some q)
    (here : w.checkpoints[handle]? = some c) (expired : c.isExpired w.now) :
    q.checkpoints[handle]? = some c ∧ c.isExpired q.now := by
  induction moves generalizing w with
  | nil =>
      cases ran
      exact ⟨here, expired⟩
  | cons m moves ih =>
      obtain ⟨next, stepped, ran⟩ := run_cons ran
      have kept := getElem?_step stepped here
      rw [refreshed_of_expired here expired] at kept
      exact ih ran kept (isExpired_mono expired (now_step stepped))

/-- From an expired checkpoint on, no run reloads the watchdog. -/
theorem reloads_run {handle : Nat} {c : Checkpoint} (ran : w.run moves = some q)
    (here : w.checkpoints[handle]? = some c) (expired : c.isExpired w.now) :
    q.reloads = w.reloads := by
  induction moves generalizing w with
  | nil =>
      cases ran
      rfl
  | cons m moves ih =>
      obtain ⟨next, stepped, ran⟩ := run_cons ran
      have first : w.run [m] = some next := by simp [run, stepped]
      obtain ⟨kept, still⟩ := expired_run first here expired
      have same := ih ran kept still
      rcases reloads_step stepped with unchanged | ⟨-, -, alive⟩
      · exact same.trans unchanged
      · have := alive c (List.mem_of_getElem? here)
        simp [this] at expired

theorem ended_run {k : Nat} {result : Except Error Unit} (ran : w.run moves = some q)
    (ended : w.runs[k]? = some (.ends result)) : q.runs[k]? = some (.ends result) := by
  induction moves generalizing w with
  | nil =>
      cases ran
      exact ended
  | cons m moves ih =>
      obtain ⟨next, stepped, ran⟩ := run_cons ran
      exact ih ran (ended_step stepped ended)

/-! What holds of every watch -/

/-- A registration fails if all places are taken, and else gives a handle that was not in use. From
then on the handle designates the checkpoint that was registered, as its own updates left it. -/
def KeepsHandles (p : Watch) : Prop :=
  ∀ name maxDelay,
    (p.handle? name maxDelay = none ↔ p.checkpoints.length = 5) ∧
    ∀ handle, p.handle? name maxDelay = some handle → p.checkpoints[handle]? = none ∧
      ∀ next after q, p.step (.register name maxDelay) = some next → next.run after = some q →
        ∃ c, c = followed handle next ⟨name, p.now, maxDelay⟩ after ∧
          q.checkpoints[handle]? = some c ∧
          ∀ delay, q.refreshes handle delay = !c.isExpired q.now

/-- A checkpoint that is expired stays expired, and no update refreshes it. -/
def KeepsExpired (p : Watch) : Prop :=
  ∀ handle c, p.checkpoints[handle]? = some c → c.isExpired p.now →
    (∀ t, p.now ≤ t → c.isExpired t) ∧
    ∀ after q, p.run after = some q → q.checkpoints[handle]? = some c ∧ c.isExpired q.now ∧
      ∀ delay, q.refreshes handle delay = false

/-- Whatever happens next, it reloads the watchdog only if it is a run that goes on, and every
checkpoint is within its delay. -/
def ReloadsAlive (p : Watch) : Prop :=
  ∀ m next, p.step m = some next → next.reloads ≠ p.reloads →
    (∃ k, m = .resume k) ∧ ∀ c ∈ p.checkpoints, p.now - c.lastUpdate ≤ c.maxDelay

/-- A run that looks at the checkpoints reloads the watchdog if all are alive. If one is expired,
the run ends for good, and no run reloads the watchdog ever after. -/
def EndsExpired (p : Watch) : Prop :=
  ∀ k due next, p.runs[k]? = some (.waits (.monitor due)) → Device.Looks due p.site →
    p.step (.resume k) = some next →
      ((∀ c ∈ p.checkpoints, c.isExpired p.now = false) → next.reloads = p.reloads + 1) ∧
      ((∃ c ∈ p.checkpoints, c.isExpired p.now) →
        ∃ name, p.monitor.expired? p.now = some name ∧
          (Error.monitorExpired name).kind = .fatal ∧
          next.runs[k]? = some (.ends (.error (.monitorExpired name))) ∧
          next.reloads = p.reloads ∧
          ∀ after q, next.run after = some q →
            q.runs[k]? = some (.ends (.error (.monitorExpired name))) ∧ q.reloads = p.reloads)

theorem keepsHandles (room : p.checkpoints.length ≤ limits.monitors) : p.KeepsHandles := by
  intro name maxDelay
  have given := p.handle?_eq name maxDelay
  refine ⟨?_, fun handle gives => ?_⟩
  · have five : limits.monitors = 5 := rfl
    rw [given, five]
    by_cases full : 5 ≤ p.checkpoints.length
    · simp only [if_pos full, true_iff]
      omega
    · simp only [if_neg full, reduceCtorEq, false_iff]
      omega
  · rw [gives] at given
    split at given
    next => cases given
    next free =>
      cases given
      refine ⟨List.getElem?_eq_none (Nat.le_refl _), fun next after q stepped ran => ?_⟩
      have placed : next.checkpoints[p.checkpoints.length]? = some ⟨name, p.now, maxDelay⟩ := by
        rw [checkpoints_step stepped, changed, if_neg free, List.getElem?_concat_length]
      have kept := getElem?_run ran placed
      refine ⟨_, rfl, kept, fun delay => ?_⟩
      rw [refreshes_eq, kept]
      rfl

theorem keepsExpired (p : Watch) : p.KeepsExpired := by
  intro handle c here expired
  refine ⟨fun t later => isExpired_mono expired later, fun after q ran => ?_⟩
  obtain ⟨kept, still⟩ := expired_run ran here expired
  exact ⟨kept, still, fun delay => refreshes_of_expired kept still⟩

theorem reloadsAlive (p : Watch) : p.ReloadsAlive := by
  intro m next stepped reloaded
  rcases reloads_step stepped with same | ⟨resumes, -, alive⟩
  · exact absurd same reloaded
  · refine ⟨resumes, fun c found => ?_⟩
    have within := alive c found
    simpa [Checkpoint.isExpired] using within

theorem endsExpired (p : Watch) : p.EndsExpired := by
  intro k due next waits looks stepped
  obtain ⟨due', waits', resumed, checkpoints, now⟩ := resumed_of_step stepped
  cases waits.symm.trans waits'
  have inside := (List.getElem?_eq_some_iff.mp waits).1
  cases resumed with
  | alive _ alive reloaded _ =>
      refine ⟨fun _ => reloaded, ?_⟩
      rintro ⟨c, found, expired⟩
      simp [alive c found] at expired
  | expired name _ first same runs =>
      have ended : next.runs[k]? = some (.ends (.error (.monitorExpired name))) := by
        rw [runs]
        exact List.getElem?_set_self inside
      refine ⟨fun alive => ?_, fun ⟨c, found, expired⟩ => ?_⟩
      · cases (expired?_eq_none.mpr alive).symm.trans first
      · obtain ⟨handle, here⟩ := List.mem_iff_getElem?.mp found
        refine ⟨name, first, rfl, ended, same, fun after q ran => ⟨ended_run ran ended, ?_⟩⟩
        have still : next.checkpoints[handle]? = some c := by rw [checkpoints, here]
        have reloads := reloads_run ran still (now ▸ expired)
        exact reloads.trans same
  | left _ leaves _ _ => exact absurd looks leaves

/-- Whatever the clients, the runs and the clock did to a new monitor: it has at most five
checkpoints, each handle keeps its own, and one that expired is never refreshed, so that the run
that finds it ends and the watchdog is not reloaded any more. -/
theorem expiry_is_final {before : List Move} (s : Site) (period : Nat)
    (ran : (make s period).run before = some p) :
    p.checkpoints.length ≤ 5 ∧ p.KeepsHandles ∧ p.KeepsExpired ∧ p.ReloadsAlive ∧
      p.EndsExpired := by
  have room : p.checkpoints.length ≤ limits.monitors := length_run ran (Nat.zero_le _)
  exact ⟨room, keepsHandles room, p.keepsExpired, p.reloadsAlive, p.endsExpired⟩

def sampleSite : Site :=
  let hardware : Hardware := ⟨.error .stopped, .error .stopped, fun _ => .ok (), .ok⟩
  ⟨0, .make (.blank []) 8 hardware, .make .standard .product false, []⟩

/-- One client stops to refresh its checkpoint while the other goes on. -/
def stuckClient : List Move :=
  [.register "stuck" 5000, .register "alive" 3000, .start, .resume 0, .pass 2000, .update 1 3000,
    .resume 0, .pass 2000, .update 1 3000, .resume 0, .pass 2000]

set_option maxRecDepth 4000 in
theorem expiry_is_final_stuckClient :
    ∃ p, (make sampleSite 2000).run stuckClient = some p ∧ p.reloads = 3 ∧
      p.checkpoints.length ≤ 5 ∧
      (∃ c, p.checkpoints[0]? = some c ∧ c.isExpired p.now) ∧
      (∀ delay, p.refreshes 0 delay = false) ∧ p.refreshes 1 3000 ∧
      ∃ next, p.step (.resume 0) = some next ∧
        next.runs[0]? = some (.ends (.error (.monitorExpired "stuck"))) ∧
        ∀ after q, next.run after = some q → q.reloads = 3 := by
  have ran : ((make sampleSite 2000).run stuckClient).any fun p => decide (
      p.reloads = 3 ∧ p.refreshes 1 3000 ∧ (p.checkpoints[0]?).any (·.isExpired p.now) ∧
      p.monitor.expired? p.now = some "stuck" ∧ (p.step (.resume 0)).isSome ∧
      p.site.device.stopped = false ∧ p.monitor.period = 2000 ∧
      (p.site.board.hardware.answer
        (.armWatchdog (p.monitor.period + limits.watchdogMargin))).isOk) := by
    decide +kernel
  obtain ⟨p, ran, known⟩ := (Option.any_eq_true _ _).mp ran
  obtain ⟨reloads, alive, late, first, goesOn, running, period, arms⟩ := of_decide_eq_true known
  obtain ⟨c, here, expired⟩ := (Option.any_eq_true _ _).mp late
  obtain ⟨next, stepped⟩ := Option.isSome_iff_exists.mp goesOn
  obtain ⟨due, waits, -⟩ := resumed_of_step stepped
  have nonzero : p.monitor.period ≠ 0 := by simp [period]
  obtain ⟨room, -, stays, -, ends⟩ := expiry_is_final sampleSite 2000 ran
  obtain ⟨-, refused⟩ := stays 0 c here expired
  obtain ⟨-, finds⟩ := ends 0 due next waits ⟨running, nonzero, fun _ => arms⟩ stepped
  obtain ⟨name, same, -, ended, -, forever⟩ := finds ⟨c, List.mem_of_getElem? here, expired⟩
  cases first.symm.trans same
  refine ⟨p, ran, reloads, room, ⟨c, here, expired⟩, (refused [] p rfl).2.2, alive, next, stepped,
    ended, fun after q ran => ?_⟩
  exact (forever after q ran).2.trans reloads

end Watch
end ConnectedDevice
