import ConnectedDevice.Proofs.Power.Daemon

/-!
Which requests the daemon carries out. Between two takes the requests replace one another, and so
the daemon serves the last one of each burst, in order, unless it asks for nothing. None is lost: a
daemon that parks without a permit has nothing to do, or a caller is about to wake it.
-/

namespace ConnectedDevice.Daemon

open PowerState (normal)

/-- Requests in order, divided where the daemon took one. -/
structure Bursts where
  taken : List (List PowerState)
  /-- since the last take -/
  fresh : List PowerState

namespace Bursts

def none : Bursts := ⟨[], []⟩

def add (b : Bursts) : Move → Bursts
  | .ask s => { b with fresh := b.fresh ++ [s] }
  | .take => ⟨b.taken ++ [b.fresh], []⟩
  | _ => b

/-- The last request of each burst that asks for something. -/
def served (bursts : List (List PowerState)) : List PowerState :=
  (bursts.filterMap (·.getLast?)).filter (· ≠ normal)

/-- The request that stands when the burst is taken. -/
def last (burst : List PowerState) : PowerState := burst.getLast?.getD normal

theorem served_concat (bursts : List (List PowerState)) (burst : List PowerState) :
    served (bursts ++ [burst]) = served bursts ++ [last burst].filter (· ≠ normal) := by
  cases same : burst.getLast? with
  | none => simp [served, last, same]
  | some s => simp [served, last, same]

theorem last_concat (burst : List PowerState) (s : PowerState) : last (burst ++ [s]) = s := by
  simp [last]

end Bursts

/-- The requests that the moves make. -/
def bursts (moves : List Move) : Bursts := moves.foldl .add .none

theorem flatten_bursts (moves : List Move) :
    ((bursts moves).taken ++ [(bursts moves).fresh]).flatten = moves.filterMap (·.asks?) := by
  have add (b : Bursts) (m : Move) : ((b.add m).taken ++ [(b.add m).fresh]).flatten =
      (b.taken ++ [b.fresh]).flatten ++ m.asks?.toList := by
    cases m <;> simp [Bursts.add, Move.asks?]
  have fold (b : Bursts) : ((moves.foldl .add b).taken ++ [(moves.foldl .add b).fresh]).flatten =
      (b.taken ++ [b.fresh]).flatten ++ moves.filterMap (·.asks?) := by
    induction moves generalizing b with
    | nil => simp
    | cons m moves ih =>
        rw [List.foldl_cons, ih, add, List.append_assoc, List.filterMap_cons]
        cases m.asks? <;> rfl
  exact fold .none

/-- The transitions that the moves carry out. -/
def executions (d : Daemon) : List Move → List PowerState
  | [] => []
  | m :: moves =>
    (d.executes? m).toList ++
      match d.step m with
      | some e => e.executions moves
      | none => []

/-- The transition that the daemon has taken and not carried out yet. -/
def Stand.underway : Stand → List PowerState
  | .took s | .drained s _ | .announced s => [s].filter (· ≠ normal)
  | .parked | .woken | .gone => []

/-- The requests made so far, the transitions carried out, and where the daemon stands. -/
structure Serves (b : Bursts) (done : List PowerState) (d : Daemon) : Prop where
  served : done ++ d.stand.underway = Bursts.served b.taken
  cell : d.power.requested = Bursts.last b.fresh
  /-- whoever stored a request leaves the permit, and the permit brings the daemon to take it -/
  kept : d.power.requested ≠ normal → d.power.permit ∨ d.callers ≠ 0 ∨ d.stand = .woken
  announced : ∀ s, d.stand = .announced s → s ≠ normal

variable {d e : Daemon} {m : Move} {moves more : List Move} {b : Bursts} {done : List PowerState}

/-- A request for nothing is not announced. -/
theorem serving_cases (s : PowerState) :
    s = normal ∧ Stand.serving s = .parked ∨ s ≠ normal ∧ Stand.serving s = .announced s := by
  by_cases nothing : s = normal <;> simp [Stand.serving, nothing]

theorem underway_serving (s : PowerState) :
    (Stand.serving s).underway = [s].filter (· ≠ normal) := by
  rcases serving_cases s with ⟨nothing, same⟩ | ⟨real, same⟩
  · rw [same, nothing]
    rfl
  · rw [same]
    rfl

theorem Serves.start (store : Store) (flash : Nor) : Serves .none [] (start store flash) where
  served := rfl
  cell := rfl
  kept := absurd rfl
  announced _ := nofun

theorem Serves.step (serves : Serves b done d) (stepped : d.step m = some e) :
    Serves (b.add m) (done ++ (d.executes? m).toList) e := by
  obtain ⟨served, cell, kept, announced⟩ := serves
  -- Only a take divides the requests, and only an execution adds to the transitions.
  have quiet (other : d.executes? m = none) (same : e.stand.underway = d.stand.underway)
      (undivided : (b.add m).taken = b.taken) :
      done ++ (d.executes? m).toList ++ e.stand.underway = Bursts.served (b.add m).taken := by
    rw [other, Option.toList_none, List.append_nil, same, undivided, served]
  -- A move that is not the take leaves what keeps a request from being forgotten.
  have stays {stand : Stand} (other : d.stand ≠ .woken) (asked : d.power.requested ≠ normal) :
      d.power.permit ∨ d.callers ≠ 0 ∨ stand = .woken :=
    (kept asked).imp_right fun rest => .inl (rest.resolve_right other)
  cases moves_of_step stepped with
  | set st | commit | flash f _ | mark => exact ⟨quiet rfl rfl rfl, cell, kept, announced⟩
  | ask s =>
      exact ⟨quiet rfl rfl rfl, (Bursts.last_concat _ _).symm,
        fun _ => .inr (.inl (Nat.succ_ne_zero _)), announced⟩
  | signal callers some => exact ⟨quiet rfl rfl rfl, cell, fun _ => .inl rfl, announced⟩
  | wake parked permit =>
      exact ⟨quiet rfl (by simp [parked, Stand.underway]) rfl, cell, fun _ => .inr (.inr rfl),
        fun _ => nofun⟩
  | take woken =>
      refine ⟨?_, rfl, absurd rfl, fun _ => nofun⟩
      have idle : done = Bursts.served b.taken := by simpa [woken, Stand.underway] using served
      simp only [executes?, Option.toList_none, List.append_nil, Bursts.add, Bursts.served_concat,
        idle, ← cell]
      rfl
  | drain s took =>
      exact ⟨quiet rfl (by simp [took, Stand.underway]) rfl, cell, stays (by simp [took]),
        fun _ => nofun⟩
  | write s drained | skip s drained =>
      have same := (underway_serving s).trans (congrArg Stand.underway drained).symm
      refine ⟨quiet rfl same rfl, cell, stays (by simp [drained]), fun t announces => ?_⟩
      rcases serving_cases s with ⟨-, same⟩ | ⟨real, same⟩
      · cases same.symm.trans announces
      · cases same.symm.trans announces
        exact real
  | execute s announces =>
      have real := announced s announces
      refine ⟨?_, cell, stays (by simp [announces]), fun _ => nofun⟩
      simpa [executes?, announces, Stand.underway, Bursts.add, real] using served
  | quit parked =>
      exact ⟨quiet rfl (by simp [parked, Stand.underway]) rfl, cell, stays (by simp [parked]),
        fun _ => nofun⟩

theorem Serves.run (serves : Serves b done d) (ran : d.run moves = some e) :
    Serves (moves.foldl .add b) (done ++ d.executions moves) e := by
  induction moves generalizing d b done with
  | nil =>
      cases ran
      simpa [executions] using serves
  | cons m moves ih =>
      obtain ⟨next, stepped, ran⟩ := run_cons ran
      simpa [executions, stepped] using ih (serves.step stepped) ran

/-! Left alone -/

/-- The daemon goes on, or a caller ends its request. -/
def Move.isFurther (m : Move) : Prop := m.isOwn ∨ m = .signal

def Stand.left : Stand → Nat
  | .parked | .gone => 0
  | .announced _ => 1
  | .drained .. => 2
  | .took _ => 3
  | .woken => 4

/-- A bound on the moves until the daemon rests. -/
def left (d : Daemon) : Nat := d.stand.left + 5 * d.power.permit.toNat + 6 * d.callers

/-- Nobody calls, and nothing wakes the daemon. -/
structure Rests (d : Daemon) : Prop where
  parked : d.stand = .parked
  permit : d.power.permit = false
  callers : d.callers = 0

theorem left_step (further : m.isFurther) (stepped : d.step m = some e) : e.left < d.left := by
  have serving (s : PowerState) : (Stand.serving s).left ≤ 1 := by
    rcases serving_cases s with ⟨-, same⟩ | ⟨-, same⟩ <;> simp [same, Stand.left]
  cases moves_of_step stepped with
  | set st | commit | flash f _ | mark | ask s | quit _ =>
      rcases further with own | signals
      · cases own
      · cases signals
  | signal callers some =>
      have least := Bool.toNat_le d.power.permit
      simp only [left, PowerRequests.signal, Bool.toNat_true, some]
      omega
  | wake parked permit =>
      simp [left, PowerRequests.wake, parked, permit, Stand.left]
  | take woken => simp [left, PowerRequests.take, woken, Stand.left]
  | drain s took => simp [left, PowerRequests.clearDirty, took, Stand.left]
  | write s drained | skip s drained =>
      have least := serving s
      have before : d.stand.left = 2 := congrArg Stand.left drained
      simp only [left, committed]
      omega
  | execute s announced => simp [left, announced, Stand.left]

/-- A daemon that is not told to end goes on until it rests. -/
theorem rests_of_stuck (here : d.stand ≠ .gone)
    (stuck : ∀ m, m.isFurther → d.step m = none) : d.Rests := by
  have callers : d.callers = 0 := by
    have signals := stuck .signal (.inr rfl)
    simp only [Daemon.step] at signals
    split at signals
    next => cases signals
    next none => exact none
  cases stands : d.stand with
  | parked =>
      refine ⟨stands, ?_, callers⟩
      have wakes := stuck .wake (.inl rfl)
      simpa [Daemon.step, stands] using wakes
  | woken => simpa [Daemon.step, stands] using stuck .take (.inl rfl)
  | took s => simpa [Daemon.step, stands] using stuck .drain (.inl rfl)
  | drained s dirty => simpa [Daemon.step, stands] using stuck .write (.inl rfl)
  | announced s => simpa [Daemon.step, stands] using stuck .execute (.inl rfl)
  | gone => exact absurd stands here

theorem length_le_left (further : ∀ m ∈ more, m.isFurther) (ran : d.run more = some e) :
    more.length + e.left ≤ d.left := by
  induction more generalizing d with
  | nil =>
      cases ran
      simp
  | cons m more ih =>
      obtain ⟨next, stepped, ran⟩ := run_cons ran
      obtain ⟨first, further⟩ := List.forall_mem_cons.mp further
      have rest := ih further ran
      have less := left_step first stepped
      rw [List.length_cons]
      omega

/-- Without further requests the last burst stays as it is, though it may be taken. -/
theorem served_further (b : Bursts) (further : ∀ m ∈ more, m.isFurther) :
    Bursts.served ((more.foldl .add b).taken ++ [(more.foldl .add b).fresh]) =
      Bursts.served (b.taken ++ [b.fresh]) := by
  induction more generalizing b with
  | nil => rfl
  | cons m more ih =>
      obtain ⟨first, further⟩ := List.forall_mem_cons.mp further
      rw [List.foldl_cons, ih _ further]
      cases m with
      | ask s => rcases first with own | signals <;> contradiction
      | take =>
          have empty : [Bursts.last []].filter (· ≠ normal) = [] := rfl
          simp only [Bursts.add, Bursts.served_concat _ [], empty, List.append_nil]
      | _ => rfl

/-- What a daemon has made of the requests that were made of it. -/
structure ServesRequests (moves : List Move) (done : List PowerState) (d : Daemon) : Prop where
  requests : ((bursts moves).taken ++ [(bursts moves).fresh]).flatten = moves.filterMap (·.asks?)
  served : done ++ d.stand.underway = Bursts.served (bursts moves).taken
  cell : d.power.requested = Bursts.last (bursts moves).fresh
  parked : d.stand = .parked → d.power.permit = false →
    d.power.requested = normal ∨ d.callers ≠ 0
  /-- Left alone, the daemon rests after so many moves at most, and has served all bursts. -/
  rests : ∀ more e, (∀ m ∈ more, m.isFurther) → d.run more = some e → more.length ≤ d.left ∧
    (e.stand ≠ .gone → (∀ m, m.isFurther → e.step m = none) → e.Rests ∧
      done ++ d.executions more = Bursts.served ((bursts moves).taken ++ [(bursts moves).fresh]))

theorem Serves.serves (serves : Serves (bursts moves) done d) : d.ServesRequests moves done where
  requests := flatten_bursts moves
  served := serves.served
  cell := serves.cell
  parked parked permit := by
    by_cases asked : d.power.requested = normal
    · exact .inl asked
    · have kept := serves.kept asked
      simp only [permit, parked, Bool.false_eq_true, reduceCtorEq, or_false, false_or] at kept
      exact .inr kept
  rests more e further ran := by
    have short := length_le_left further ran
    refine ⟨by omega, fun here stuck => ?_⟩
    have rests := rests_of_stuck here stuck
    obtain ⟨served, cell, kept, -⟩ := serves.run ran
    have nothing : e.power.requested = normal := Decidable.byContradiction fun asked => by
      simpa [rests.permit, rests.callers, rests.parked] using kept asked
    have idle : e.stand.underway = [] := by rw [rests.parked]; rfl
    refine ⟨rests, ?_⟩
    rw [idle, List.append_nil] at served
    rw [served, ← served_further _ further, Bursts.served_concat, ← cell, nothing]
    simp

/-- The second request replaces the first one, and the third one comes while the second is under
way. -/
def replacing : List Move :=
  [.ask .standby, .signal, .ask .softwareReset, .wake, .signal, .take, .drain, .ask .wlanPowerdown,
    .write, .signal, .execute, .wake, .take, .drain, .write, .execute]

end ConnectedDevice.Daemon
