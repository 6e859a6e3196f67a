import ConnectedDevice.Proofs.Store
import ConnectedDevice.Proofs.World.Path

/-!
One system of a world, with the runs that wait there. What all deeds of the system keep is kept by
every event but the steps of its own runs and a loss of power; those of other systems leave it as it
is.
-/

namespace ConnectedDevice

/-- The runs that wait among tasks, and where. -/
def Task.runs (tasks : List Task) : List (Nat × RunWait) := tasks.filterMap Task.run?

@[simp]
theorem Task.runs_nil : Task.runs [] = [] := rfl

@[simp]
theorem Task.runs_append (tasks more : List Task) :
    Task.runs (tasks ++ more) = Task.runs tasks ++ Task.runs more := List.filterMap_append

@[simp]
theorem Task.runs_singleton (t : Task) : Task.runs [t] = t.run?.toList := by
  cases run : t.run? <;> simp [runs, run]

/-- What a deed leaves of a system, and the runs that wait there in addition. -/
inductive Deed.Leaves (d : Device) : Deed → Device → List (Nat × RunWait) → Prop
  | nothing (deed : Deed) : deed.Leaves d d []
  | change (c : Change) : Leaves d (.change c) { d with store := d.store.change c } []
  | load (store : Store) : store.loaded.isSome → Leaves d .load { d with store } []
  | spawn (t : Task) : Leaves d (.spawn t) d t.run?.toList
  | enroll (subscriptions : List (NotificationKind × Nat)) : d.provisioning = false →
      Leaves d (.enroll subscriptions) (d.enroll subscriptions) [(d.runs.length, .start)]
  | session (run : Nat) (f : Session → Session) :
      Leaves d (.session run f) (d.modifySession run f) []
  | close (run : Nat) (outcome : Outcome) : Leaves d (.close run outcome) (d.close run outcome) []

theorem Deed.leaves (deed : Deed) (s : Site) :
    ∃ new, deed.Leaves s.device (deed.perform s).device new ∧
      Task.runs (deed.perform s).spawned = Task.runs s.spawned ++ new := by
  have nothing (t : Site) (same : t.device = s.device) (spawned : t.spawned = s.spawned) :
      ∃ new, deed.Leaves s.device t.device new ∧
        Task.runs t.spawned = Task.runs s.spawned ++ new :=
    ⟨[], same ▸ .nothing deed, by simp [spawned]⟩
  cases deed with
  | change c => exact ⟨[], .change c, by simp [perform]⟩
  | load =>
      simp only [perform, Device.load_run]
      split
      next store read =>
        obtain ⟨r, rfl, -⟩ := Store.init_cases read
        exact ⟨[], .load _ rfl, by simp⟩
      next => exact nothing s rfl rfl
  | commit => exact nothing _ rfl rfl
  | erase | write offset data =>
      simp only [perform, Act.onFlash_run]
      split
      · exact nothing _ rfl rfl
      · exact nothing s rfl rfl
  | spawn t => exact ⟨_, .spawn t, by simp [perform]⟩
  | enroll subscriptions =>
      simp only [perform]
      split
      · exact nothing s rfl rfl
      next idle =>
        exact ⟨_, .enroll subscriptions (by simpa using idle), by simp [Site.enroll, Task.run?]⟩
  | session run f => exact ⟨[], .session run f, by simp [perform]⟩
  | close run outcome => exact ⟨[], .close run outcome, by simp [perform]⟩

/-- A statement about a system and the runs that wait there outlasts deeds. -/
structure Kept (may : Deed → Prop) (inv : Device → List (Nat × RunWait) → Prop) : Prop where
  same : ∀ {d later : Device} {ws : List (Nat × RunWait)}, d.Same later → inv d ws → inv later ws
  deed : ∀ {deed : Deed} {d later : Device} {ws new : List (Nat × RunWait)}, may deed →
    deed.Leaves d later new → inv d ws → inv later (ws ++ new)

theorem Kept.runs {may : Deed → Prop} {inv : Device → List (Nat × RunWait) → Prop}
    (kept : Kept may inv) {s : Site} {α : Type} {answer : α → Prop} {act : Act α}
    (ws : List (Nat × RunWait)) (runs : s.Runs may answer act)
    (start : inv s.device (ws ++ Task.runs s.spawned)) :
    inv (act s).2.device (ws ++ Task.runs (act s).2.spawned) := by
  obtain ⟨leads, -⟩ := runs
  generalize (act s).2 = t at leads ⊢
  induction leads with
  | refl => exact start
  | silent _ same ih => exact same.spawned ▸ kept.same same.device ih
  | @deed t deed _ allowed ih =>
      obtain ⟨new, leaves, spawned⟩ := deed.leaves t
      rw [spawned, ← List.append_assoc]
      exact kept.deed allowed leaves ih

theorem Kept.mono {may more : Deed → Prop} {inv : Device → List (Nat × RunWait) → Prop}
    (kept : Kept more inv) (weaker : ∀ d, may d → more d) : Kept may inv :=
  ⟨kept.same, fun allowed => kept.deed (weaker _ allowed)⟩

theorem Kept.and {may : Deed → Prop} {inv more : Device → List (Nat × RunWait) → Prop}
    (first : Kept may inv) (second : Kept may more) : Kept may fun d ws => inv d ws ∧ more d ws :=
  ⟨fun same known => ⟨first.same same known.1, second.same same known.2⟩,
    fun allowed leaves known =>
      ⟨first.deed allowed leaves known.1, second.deed allowed leaves known.2⟩⟩

namespace World

/-- The runs of a system that wait. -/
def waits (w : World) (i : Nat) : List (Nat × RunWait) :=
  w.tasks.filterMap fun (j, t) => if j = i then t.run? else none

def Holds (w : World) (i : Nat) (inv : Device → List (Nat × RunWait) → Prop) : Prop :=
  ∃ d, w.devices[i]? = some d ∧ inv d (w.waits i)

/-- Every task belongs to a system. -/
def Manned (w : World) : Prop := ∀ entry ∈ w.tasks, entry.1 < w.devices.length

section Lists

variable {α β : Type} {f : α → Option β} {l : List α} {k : Nat} {a b : α}

theorem filterMap_split (here : l[k]? = some a) :
    l.filterMap f = (l.take k).filterMap f ++ (f a).toList ++ (l.drop (k + 1)).filterMap f := by
  obtain ⟨inside, rfl⟩ := List.getElem?_eq_some_iff.mp here
  have whole : l = l.take k ++ l[k] :: l.drop (k + 1) := by
    rw [← List.drop_eq_getElem_cons inside, List.take_append_drop]
  have mapped := congrArg (List.filterMap f) whole
  rw [List.filterMap_append, List.filterMap_cons] at mapped
  cases found : f l[k] <;> simp [found] at mapped ⊢ <;> exact mapped

theorem filterMap_set (here : l[k]? = some a) :
    (l.set k b).filterMap f =
      (l.take k).filterMap f ++ (f b).toList ++ (l.drop (k + 1)).filterMap f := by
  have inside := (List.getElem?_eq_some_iff.mp here).1
  have there : (l.set k b)[k]? = some b := by simp [inside]
  rw [filterMap_split there, List.take_set_of_le (Nat.le_refl k),
    List.drop_set_of_lt (Nat.lt_succ_self k)]

theorem filterMap_eraseIdx :
    (l.eraseIdx k).filterMap f = (l.take k).filterMap f ++ (l.drop (k + 1)).filterMap f := by
  rw [List.eraseIdx_eq_take_drop_succ, List.filterMap_append]

theorem filterMap_only {x y : β} (here : l[k]? = some a) (found : f a = some y)
    (only : l.filterMap f = [x]) :
    (l.take k).filterMap f = [] ∧ (l.drop (k + 1)).filterMap f = [] := by
  have length := congrArg List.length (only.symm.trans (filterMap_split here))
  simp only [found, Option.toList_some, List.length_append, List.length_singleton] at length
  exact ⟨List.eq_nil_of_length_eq_zero (by omega), List.eq_nil_of_length_eq_zero (by omega)⟩

end Lists

variable {w u : World} {i j k : Nat} {d : Device} {t : Task} {α : Type}

theorem tasks_enter {act : Act α} :
    (w.enter i d act).2.tasks =
      w.tasks ++ (act ⟨i, w.board, d, []⟩).2.spawned.map fun t => (i, t) := rfl

theorem waits_enter {act : Act α} :
    (w.enter i d act).2.waits i = w.waits i ++ Task.runs (act ⟨i, w.board, d, []⟩).2.spawned := by
  rw [waits, tasks_enter, List.filterMap_append, List.filterMap_map]
  congr 2
  -- what an act starts belongs to its own system
  funext t
  exact if_pos rfl

theorem waits_enter_of_ne {act : Act α} (other : i ≠ j) :
    (w.enter i d act).2.waits j = w.waits j := by
  simp [waits, tasks_enter, List.filterMap_append, List.filterMap_map, other]

theorem waits_withStep_of_ne {step : TaskStep} (task : w.tasks[k]? = some (j, t)) (other : j ≠ i) :
    (w.withStep k j t step).waits i = w.waits i := by
  cases step with
  | waits next => simp [waits, withStep, filterMap_set task, filterMap_split task, other]
  | ends result => simp [waits, withStep, filterMap_eraseIdx, filterMap_split task, other]

theorem waits_withStep_of_run? {step : TaskStep} (task : w.tasks[k]? = some (j, t))
    (before : t.run? = none) (after : step.run? = none) :
    (w.withStep k j t step).waits i = w.waits i := by
  cases step with
  | waits next =>
      have after : next.run? = none := after
      simp [waits, withStep, filterMap_set task, filterMap_split task, before, after]
  | ends result => simp [waits, withStep, filterMap_eraseIdx, filterMap_split task, before]

/-- The only run of a system that waits takes a step. -/
theorem waits_withStep {step : TaskStep} {waiting : Nat × RunWait}
    (task : w.tasks[k]? = some (i, t)) (run : t.run? = some waiting)
    (only : w.waits i = [waiting]) :
    (w.withStep k i t step).waits i = step.run?.toList := by
  obtain ⟨front, back⟩ := filterMap_only task (y := waiting) (by simp [run]) only
  cases step with
  | waits next => simp [waits, withStep, filterMap_set task, front, back, TaskStep.run?]
  | ends result => simp [waits, withStep, filterMap_eraseIdx, front, back, TaskStep.run?]

theorem devices_withStep {step : TaskStep} : (w.withStep k i t step).devices = w.devices := by
  cases step <;> rfl

/-! Paths -/

section Path

variable {may : Nat → Deed → Prop} {inv : Device → List (Nat × RunWait) → Prop}

theorem Holds.path (holds : w.Holds i inv) (kept : Kept (may i) inv) (path : w.Path may u) :
    u.Holds i inv := by
  induction path with
  | refl => exact holds
  | @enter v j e _ _ act _ here runs ih =>
      obtain ⟨d, found, known⟩ := ih
      by_cases same : j = i
      · subst same
        cases here.symm.trans found
        refine ⟨_, devices_enter act here, ?_⟩
        rw [waits_enter]
        exact kept.runs _ runs (by simpa using known)
      · refine ⟨d, (List.getElem?_set_ne same).trans found, ?_⟩
        rwa [waits_enter_of_ne same]
  | board _ _ ih => exact ih

theorem Path.length (path : w.Path may u) : u.devices.length = w.devices.length := by
  induction path with
  | refl => rfl
  | enter _ _ _ ih => exact List.length_set.trans ih
  | board _ _ ih => exact ih

/-- What silent matters and deeds keep of a system holds of all systems. -/
theorem Path.devices {inv : Device → Prop} (path : w.Path may u)
    (same : ∀ d later, d.Same later → inv d → inv later)
    (deed : ∀ (deed : Deed) (s : Site), inv s.device → inv (deed.perform s).device)
    (known : ∀ d ∈ w.devices, inv d) : ∀ d ∈ u.devices, inv d := by
  induction path with
  | refl => exact known
  | enter _ here runs ih =>
      intro d found
      rcases List.mem_or_eq_of_mem_set found with found | rfl
      · exact ih d found
      · exact runs.1.invariant (fun _ _ kept => same _ _ kept.device) (fun x s _ => deed x s)
          (ih _ (List.mem_of_getElem? here))
  | board _ _ ih => exact ih

theorem Path.manned (path : w.Path may u) (manned : w.Manned) : u.Manned := by
  induction path with
  | refl => exact manned
  | @enter v i d _ _ act _ here _ ih =>
      have length : (v.enter i d act).2.devices.length = v.devices.length := List.length_set
      intro entry found
      rw [length]
      rw [tasks_enter] at found
      rcases List.mem_append.mp found with found | found
      · exact ih entry found
      · obtain ⟨t, -, rfl⟩ := List.mem_map.mp found
        exact (List.getElem?_eq_some_iff.mp here).1
  | board _ _ ih => exact ih

theorem Manned.withStep {step : TaskStep} (manned : w.Manned) (task : w.tasks[k]? = some (i, t)) :
    (w.withStep k i t step).Manned := by
  intro entry found
  rw [devices_withStep]
  cases step with
  | waits next =>
      rcases List.mem_or_eq_of_mem_set found with found | rfl
      · exact manned entry found
      · exact manned (i, t) (List.mem_of_getElem? task)
  | ends result => exact manned entry (List.mem_of_mem_eraseIdx found)

theorem Manned.waits_eq_nil (manned : w.Manned) (unknown : w.devices[i]? = none) :
    w.waits i = [] := by
  refine List.filterMap_eq_nil_iff.mpr fun entry found => ?_
  have inside := manned entry found
  have beyond := List.getElem?_eq_none_iff.mp unknown
  have other : entry.1 ≠ i := by omega
  simp [other]

/-- A task keeps its position until it takes a step itself. -/
theorem Path.task {task : Nat × Task} (path : w.Path may u) (here : w.tasks[k]? = some task) :
    u.tasks[k]? = some task := by
  induction path with
  | refl => exact here
  | enter _ _ _ ih =>
      rw [tasks_enter, List.getElem?_append_left (List.getElem?_eq_some_iff.mp ih).1, ih]
  | board _ _ ih => exact ih

end Path

/-! Notifications -/

section Dispatch

variable {n : Notification} {run : Nat}

theorem calls (post : World → Prop) {handlers : List Handler} (known : post u)
    (stays : ∀ {u h}, h ∈ handlers → post u → post (call n u h)) :
    post (handlers.foldl (call n) u) := by
  induction handlers generalizing u with
  | nil => exact known
  | cons h handlers ih =>
      refine ih (stays (List.mem_cons_self ..) known) fun found => ?_
      exact stays (List.mem_cons_of_mem _ found)

/-- What one run makes of a notification is there when all handlers have run. -/
theorem dispatch_reaches (pre post : World → Prop) (start : pre w)
    (listens : w.Listens n.kind i run)
    (waits : ∀ {u h}, h ∈ w.board.center.callbacks n.kind → h ≠ .provisioning i run → pre u →
      pre (call n u h))
    (reaches : ∀ {u}, pre u → post (call n u (.provisioning i run)))
    (stays : ∀ {u h}, h ∈ w.board.center.callbacks n.kind → post u → post (call n u h)) :
    post (w.dispatch n) := by
  unfold World.dispatch
  replace listens : .provisioning i run ∈ w.board.center.callbacks n.kind := listens
  generalize w.board.center.callbacks n.kind = handlers at listens waits stays
  induction handlers generalizing w with
  | nil => cases listens
  | cons h handlers ih =>
      have rest {u : World} {h : Handler} (found : h ∈ handlers) : post u → post (call n u h) :=
        stays (List.mem_cons_of_mem _ found)
      rw [List.foldl_cons]
      by_cases same : h = .provisioning i run
      · subst same
        exact calls post (reaches start) rest
      · have listens := (List.mem_cons.mp listens).resolve_left (Ne.symm same)
        refine ih (waits (List.mem_cons_self ..) same start) listens (fun found => ?_) rest
        exact waits (List.mem_cons_of_mem _ found)

end Dispatch
end World

/-! Events -/

namespace Scene

variable {p : Scene} {e : Event} {i : Nat} {inv : Device → List (Nat × RunWait) → Prop}

/-- The run that the event takes a step further, with its system and with where it waits. -/
def goesOn? (p : Scene) : Event → Option (Nat × Nat × RunWait)
  | .resume k => (p.world.tasks[k]?).bind fun (i, t) => t.run?.map fun waiting => (i, waiting)
  | _ => none

theorem goesOn?_eq_some {run : Nat} {wait : RunWait} : p.goesOn? e = some (i, run, wait) ↔
    ∃ k, e = .resume k ∧ p.world.tasks[k]? = some (i, .provisioning run wait) := by
  constructor
  · intro goes
    cases e with
    | resume k =>
        obtain ⟨⟨j, t⟩, task, goes⟩ := Option.bind_eq_some_iff.mp goes
        obtain ⟨waiting, known, same⟩ := Option.map_eq_some_iff.mp goes
        cases same
        exact ⟨k, rfl, Task.eq_of_run? known ▸ task⟩
    | _ => cases goes
  · rintro ⟨k, rfl, task⟩
    simp [goesOn?, task, Task.run?]

/-- An event takes the run a step further, or is none of its own. -/
theorem goesOn?_cases (p : Scene) (e : Event) (i run : Nat) :
    (∃ wait, p.goesOn? e = some (i, run, wait)) ∨ ∀ wait, p.goesOn? e ≠ some (i, run, wait) :=
  Classical.or_iff_not_imp_left.mpr fun never wait goes => never ⟨wait, goes⟩

theorem ne_powerLoss_of_goesOn? {run : Nat × Nat × RunWait} (goes : p.goesOn? e = some run) :
    e ≠ .powerLoss := by
  rintro rfl
  cases goes

/-- The event takes a run of the system a step further. -/
def StepsRun (p : Scene) (e : Event) (i : Nat) : Prop :=
  ∃ run wait, p.goesOn? e = some (i, run, wait)

open World

theorem path_resume {k j : Nat} {t : Task} {d : Device}
    (task : p.world.tasks[k]? = some (j, t)) (here : p.world.devices[j]? = some d) :
    p.world.Path (p.Does (.resume k)) (p.world.resumeTask j d t).1 ∧
      (t.run? = none → (p.world.resumeTask j d t).2.run? = none) :=
  World.Path.refl.resumeTask here (.commitBefore k) fun _ _ _ same goes =>
    .goOn (same ▸ task) here goes

theorem path_boot {options : Options} {info : DeviceInfo} {hooked : Bool} :
    Path (p.Does (.boot options info hooked))
      { p.world with devices := p.world.devices ++ [.make options info hooked] }
      (p.step (.boot options info hooked)).world := .bootOnly fun _ => .boot

theorem holds_resume {k : Nat} (other : ¬p.StepsRun (.resume k) i)
    (kept : Kept (p.Does (.resume k) i) inv) (holds : p.world.Holds i inv) :
    (p.step (.resume k)).world.Holds i inv := by
  simp only [Scene.step]
  cases task : p.world.tasks[k]? with
  | none => simpa [World.resume, task] using holds
  | some entry =>
      obtain ⟨j, t⟩ := entry
      cases here : p.world.devices[j]? with
      | none =>
          obtain ⟨d, found, known⟩ := holds
          have apart : j ≠ i := by
            rintro rfl
            cases here.symm.trans found
          have gone : (p.world.withStep k j t (.ends (.ok ()))).waits i = p.world.waits i :=
            waits_withStep_of_ne task apart
          have same : p.world.resume k = { p.world with tasks := p.world.tasks.eraseIdx k } := by
            simp only [World.resume, task, here]
          rw [same]
          exact ⟨d, found, gone ▸ known⟩
      | some d =>
          obtain ⟨path, silent⟩ := path_resume task here
          obtain ⟨e, found, known⟩ := holds.path kept path
          have later := path.task task
          rw [resume_eq task here]
          refine ⟨e, (congrArg (·[i]?) devices_withStep).trans found, ?_⟩
          by_cases apart : j = i
          · subst apart
            have other : t.run? = none := by
              cases run : t.run? with
              | none => rfl
              | some waiting =>
                  have goes : p.goesOn? (.resume k) = some (j, waiting) := by
                    simp [goesOn?, task, run]
                  exact absurd ⟨_, _, goes⟩ other
            rwa [waits_withStep_of_run? later other (silent other)]
          · rwa [waits_withStep_of_ne later apart]

theorem holds_step (permits : p.permits e) (powered : e ≠ .powerLoss) (other : ¬p.StepsRun e i)
    (kept : Kept (p.Does e i) inv) (holds : p.world.Holds i inv) :
    (p.step e).world.Holds i inv := by
  by_cases goesOn : ∃ k, e = .resume k
  · obtain ⟨k, rfl⟩ := goesOn
    exact holds_resume other kept holds
  by_cases boots : ∃ options info hooked, e = .boot options info hooked
  · obtain ⟨options, info, hooked, rfl⟩ := boots
    obtain ⟨d, found, known⟩ := holds
    have inside := (List.getElem?_eq_some_iff.mp found).1
    have further : Holds { p.world with devices := p.world.devices ++ [.make options info hooked] }
        i inv := ⟨d, (List.getElem?_append_left inside).trans found, known⟩
    exact further.path kept path_boot
  exact holds.path kept (path_step permits (fun k same => goesOn ⟨k, same⟩) powered
    fun options info hooked same => boots ⟨options, info, hooked, same⟩)

/-- What holds of a system apart from its tasks outlasts the steps of its runs too. -/
theorem device_step {inv : Device → Prop} {d : Device} (permits : p.permits e)
    (powered : e ≠ .powerLoss) (kept : Kept (p.Does e i) fun d _ => inv d)
    (here : p.world.devices[i]? = some d) (known : inv d) :
    ∃ later, (p.step e).world.devices[i]? = some later ∧ inv later := by
  have holds : p.world.Holds i fun d _ => inv d := ⟨d, here, known⟩
  by_cases steps : p.StepsRun e i
  · obtain ⟨run, wait, goes⟩ := steps
    obtain ⟨k, rfl, task⟩ := goesOn?_eq_some.mp goes
    obtain ⟨later, found, known⟩ := holds.path kept (path_resume task here).1
    rw [Scene.step, resume_eq task here]
    exact ⟨later, (congrArg (·[i]?) devices_withStep).trans found, known⟩
  · exact holds_step permits powered steps kept holds

theorem devices_step {inv : Device → Prop} (same : ∀ d later, d.Same later → inv d → inv later)
    (deed : ∀ (deed : Deed) (s : Site), inv s.device → inv (deed.perform s).device)
    (fresh : ∀ options info hooked, inv (.make options info hooked)) (permits : p.permits e)
    (known : ∀ d ∈ p.world.devices, inv d) : ∀ d ∈ (p.step e).world.devices, inv d := by
  by_cases goesOn : ∃ k, e = .resume k
  · obtain ⟨k, rfl⟩ := goesOn
    simp only [Scene.step]
    cases task : p.world.tasks[k]? with
    | none => simpa [World.resume, task] using known
    | some entry =>
        obtain ⟨i, t⟩ := entry
        cases here : p.world.devices[i]? with
        | none => simpa [World.resume, task, here] using known
        | some d =>
            rw [resume_eq task here, devices_withStep]
            exact (path_resume task here).1.devices same deed known
  by_cases boots : ∃ options info hooked, e = .boot options info hooked
  · obtain ⟨options, info, hooked, rfl⟩ := boots
    refine path_boot.devices same deed fun d found => ?_
    rcases List.mem_append.mp found with found | found
    · exact known d found
    · rw [List.mem_singleton.mp found]
      exact fresh options info hooked
  by_cases powered : e = .powerLoss
  · subst powered
    simp [Scene.step, World.loseAll, World.make]
  exact (path_step permits (fun k same => goesOn ⟨k, same⟩) powered
    fun options info hooked same => boots ⟨options, info, hooked, same⟩).devices same deed known

theorem length_step (permits : p.permits e) (manned : p.world.Manned) (powered : e ≠ .powerLoss)
    (old : ∀ options info hooked, e ≠ .boot options info hooked) :
    (p.step e).world.devices.length = p.world.devices.length := by
  by_cases goesOn : ∃ k, e = .resume k
  · obtain ⟨k, rfl⟩ := goesOn
    simp only [Scene.step]
    cases task : p.world.tasks[k]? with
    | none => simp [World.resume, task]
    | some entry =>
        obtain ⟨i, t⟩ := entry
        have here := List.getElem?_eq_getElem (manned _ (List.mem_of_getElem? task))
        rw [resume_eq task here, devices_withStep]
        exact (path_resume task here).1.length
  exact (path_step permits (fun k same => goesOn ⟨k, same⟩) powered old).length

theorem manned_step (permits : p.permits e) (manned : p.world.Manned) :
    (p.step e).world.Manned := by
  by_cases goesOn : ∃ k, e = .resume k
  · obtain ⟨k, rfl⟩ := goesOn
    simp only [Scene.step]
    cases task : p.world.tasks[k]? with
    | none => simpa [World.resume, task] using manned
    | some entry =>
        obtain ⟨i, t⟩ := entry
        have inside := manned _ (List.mem_of_getElem? task)
        have here := List.getElem?_eq_getElem inside
        rw [resume_eq task here]
        have later := (path_resume task here).1.manned manned
        have task := (path_resume task here).1.task task
        exact later.withStep task
  by_cases boots : ∃ options info hooked, e = .boot options info hooked
  · obtain ⟨options, info, hooked, rfl⟩ := boots
    refine path_boot.manned fun entry found => ?_
    have inside := manned entry found
    simp only [List.length_append]
    omega
  by_cases powered : e = .powerLoss
  · subst powered
    intro entry found
    cases found
  exact (path_step permits (fun k same => goesOn ⟨k, same⟩) powered
    fun options info hooked same => boots ⟨options, info, hooked, same⟩).manned manned

end Scene
end ConnectedDevice
