import ConnectedDevice.Proofs.World.Path

/-!
Laws of a world: what holds of the flash, of every store, of the outcomes of all runs, and of the
settings that waiting runs remember. A law that allows the deeds of an act survives the act, and so
it survives notifications and the steps of tasks.
-/

namespace ConnectedDevice

/-- The task is a run that was told to end. -/
def Device.isEnding (d : Device) : Task → Bool
  | .provisioning run _ => d.isCancelled run
  | _ => false

def World.isEnding (w : World) (i : Nat) (t : Task) : Bool := (w.devices[i]?).any (·.isEnding t)

structure Law where
  flash : Nor → Prop
  store : Store → Prop
  outcome : Outcome → Prop
  /-- of the settings that a run remembers -/
  before : SystemConfig → Prop

namespace Law

variable (L : Law)

structure OnDevice (d : Device) : Prop where
  store : L.store d.store
  outcomes : ∀ o ∈ d.outcomes, L.outcome o

def OnTask (t : Task) : Prop := ∀ before ∈ t.before?, L.before before

structure OnSite (s : Site) : Prop where
  flash : L.flash s.board.flash
  device : L.OnDevice s.device
  spawned : ∀ t ∈ s.spawned, L.OnTask t

structure OnWorld (w : World) : Prop where
  flash : L.flash w.board.flash
  devices : ∀ d ∈ w.devices, L.OnDevice d
  tasks : ∀ i t, (i, t) ∈ w.tasks → w.isEnding i t ∨ L.OnTask t

def Allows (d : Deed) : Prop := ∀ s, L.OnSite s → L.OnSite (d.perform s)

/-- What every act may do without asking. -/
structure Stands : Prop where
  commit : L.Allows .commit
  load : L.Allows .load
  observe : ∀ status, L.Allows (.change (.observe status))
  refusing : ∀ f refusing, L.flash f → L.flash { f with refusing }
  fresh : L.store (.make DeviceInfo.defaultName DeviceInfo.configSeed)

/-- A run that may take the settings back to `target` is allowed to do so. -/
structure AllowsTarget (target : Option SystemConfig) : Prop where
  before : ∀ before ∈ target, L.before before
  deeds : ∀ run d, Provisioning.MayResume run target d → L.Allows d

variable {L}

theorem OnSite.same {s t : Site} (same : s.Same t) (law : L.OnSite s) : L.OnSite t where
  flash := same.flash ▸ law.flash
  device := ⟨same.device.store ▸ law.device.store, same.device.outcomes ▸ law.device.outcomes⟩
  spawned := same.spawned ▸ law.spawned

theorem OnSite.runs {α : Type} {s : Site} {may : Deed → Prop} {answer : α → Prop} {act : Act α}
    (law : L.OnSite s) (runs : s.Runs may answer act) (allows : ∀ d, may d → L.Allows d) :
    L.OnSite (act s).2 :=
  runs.1.invariant (fun _ _ => OnSite.same) (fun d s allowed => allows d allowed s) law

theorem allows_change {c : Change} (keeps : ∀ s, L.store s → L.store (s.change c)) :
    L.Allows (.change c) :=
  fun s law => ⟨law.flash, ⟨keeps s.device.store law.device.store, law.device.outcomes⟩,
    law.spawned⟩

theorem allows_commit (keeps : ∀ s f, L.store s → L.flash f → L.flash (s.commit f).2) :
    L.Allows .commit :=
  fun s law => ⟨keeps s.device.store s.board.flash law.device.store law.flash, law.device,
    law.spawned⟩

theorem allows_spawn {t : Task} (task : L.OnTask t) : L.Allows (.spawn t) := by
  refine fun s law => ⟨law.flash, law.device, fun u found => ?_⟩
  rcases List.mem_append.mp found with found | found
  · exact law.spawned u found
  · rw [List.mem_singleton.mp found]
    exact task

theorem onTask_of_forgets {t : Task} (forgets : t.before? = none) : L.OnTask t := by
  simp [OnTask, forgets]

theorem allows_close {run : Nat} {outcome : Outcome} (known : L.outcome outcome) :
    L.Allows (.close run outcome) := by
  refine fun s law => ⟨law.flash, ⟨law.device.store, fun o found => ?_⟩, law.spawned⟩
  rcases s.device.mem_outcomes_close found with found | rfl
  · exact law.device.outcomes o found
  · exact known

theorem allows_load
    (keeps : ∀ s f n s', L.store s → L.flash f → s.init f n = .ok s' → L.store s') :
    L.Allows .load := by
  intro s law
  simp only [Deed.perform, Device.load_run]
  cases read : s.device.store.init s.board.flash s.device.options.appDataSize with
  | error e => exact law
  | ok store =>
      have known := keeps _ _ _ _ law.device.store law.flash read
      exact ⟨law.flash, ⟨known, law.device.outcomes⟩, law.spawned⟩

theorem allows_session {run : Nat} {f : Session → Session} : L.Allows (.session run f) := by
  refine fun s law => ⟨law.flash, ⟨law.device.store, ?_⟩, law.spawned⟩
  have kept := s.device.outcomes_modifyRun run (f := fun r => { r with session := f r.session })
    fun _ => rfl
  rw [Deed.perform, Device.modifySession, kept]
  exact law.device.outcomes

theorem allows_enroll {subscriptions : List (NotificationKind × Nat)} :
    L.Allows (.enroll subscriptions) := by
  intro s law
  simp only [Deed.perform]
  split
  · exact law
  · refine ⟨law.flash, ⟨law.device.store, ?_⟩, fun t found => ?_⟩
    · have kept : (s.enroll subscriptions).device.outcomes = s.device.outcomes := by
        simp [Site.enroll, Device.enroll, Device.outcomes]
      rw [kept]
      exact law.device.outcomes
    · rcases List.mem_append.mp found with found | found
      · exact law.spawned t found
      · rw [List.mem_singleton.mp found]
        exact onTask_of_forgets rfl

end Law

namespace World

variable {α : Type} {may : Deed → Prop} {answer : α → Prop} {w : World} {i j : Nat} {d : Device}
  {t : Task}

theorem isEnding_of_getElem? (here : w.devices[i]? = some d) (told : d.isEnding t) :
    w.isEnding i t := by
  simp [isEnding, here, told]

theorem isEnding_append (more : List Device) (told : w.isEnding i t) :
    { w with devices := w.devices ++ more }.isEnding i t := by
  obtain ⟨d, here, told⟩ := (Option.any_eq_true _ _).mp told
  have inside := (List.getElem?_eq_some_iff.mp here).1
  refine isEnding_of_getElem? ?_ told
  rw [List.getElem?_append_left inside, here]

theorem isEnding_enter {act : Act α} (here : w.devices[i]? = some d)
    (runs : Site.Runs ⟨i, w.board, d, []⟩ may answer act) (told : w.isEnding j t) :
    (w.enter i d act).2.isEnding j t := by
  obtain ⟨e, there, told⟩ := (Option.any_eq_true _ _).mp told
  by_cases same : i = j
  · subst same
    cases here.symm.trans there
    refine isEnding_of_getElem? (devices_enter act here) ?_
    cases t with
    | provisioning run wait =>
        exact runs.1.invariant (fun _ _ same => same.device.cancelled run)
          (fun deed _ _ => Device.isCancelled_perform deed) told
    | _ => cases told
  · exact isEnding_of_getElem? ((List.getElem?_set_ne same).trans there) told

end World

namespace Law

variable {L : Law}

namespace OnWorld

variable {α : Type} {may : Deed → Prop} {answer : α → Prop} {w : World} {i : Nat} {d : Device}

theorem enter {act : Act α} (law : L.OnWorld w) (here : w.devices[i]? = some d)
    (runs : Site.Runs ⟨i, w.board, d, []⟩ may answer act) (allows : ∀ d, may d → L.Allows d) :
    L.OnWorld (w.enter i d act).2 := by
  have device := law.devices d (List.mem_of_getElem? here)
  have before : L.OnSite ⟨i, w.board, d, []⟩ := ⟨law.flash, device, by simp⟩
  have after := before.runs runs allows
  refine ⟨after.flash, fun e found => ?_, fun j t found => ?_⟩
  · rcases List.mem_or_eq_of_mem_set found with found | rfl
    · exact law.devices e found
    · exact after.device
  · rcases List.mem_append.mp found with found | found
    · exact (law.tasks j t found).imp_left (World.isEnding_enter here runs)
    · obtain ⟨task, spawned, same⟩ := List.mem_map.mp found
      cases same
      exact .inr (after.spawned _ spawned)

theorem path {may : Nat → Deed → Prop} {u : World} (law : L.OnWorld w) (stands : L.Stands)
    (path : w.Path may u) (allows : ∀ i d, may i d → L.Allows d) : L.OnWorld u := by
  induction path with
  | refl => exact law
  | enter _ here runs ih => exact ih.enter here runs (allows _)
  | @board u b _ keeps ih =>
      obtain ⟨refusing, flash⟩ := keeps
      exact ⟨flash ▸ stands.refusing _ _ ih.flash, ih.devices, ih.tasks⟩

/-! Tasks -/

theorem withStep {k : Nat} {t : Task} {step : TaskStep} (law : L.OnWorld w)
    (task : ∀ next, step = .waits next → w.isEnding i next ∨ L.OnTask next) :
    L.OnWorld (w.withStep k i t step) := by
  cases step with
  | waits next =>
      refine ⟨law.flash, law.devices, fun j u found => ?_⟩
      rcases List.mem_or_eq_of_mem_set found with found | same
      · exact law.tasks j u found
      · cases same
        exact task next rfl
  | ends result =>
      exact ⟨law.flash, law.devices,
        fun j t found => law.tasks j t (List.mem_of_mem_eraseIdx found)⟩

theorem resumeTask {t : Task} (law : L.OnWorld w) (stands : L.Stands)
    (here : w.devices[i]? = some d)
    (target : ∀ run wait, t = .provisioning run wait → L.AllowsTarget (d.target? run wait)) :
    L.OnWorld (w.resumeTask i d t).1 ∧ ∀ next, (w.resumeTask i d t).2 = .waits next →
      (w.resumeTask i d t).1.isEnding i next ∨ L.OnTask next := by
  let allowed (_ : Nat) (deed : Deed) : Prop := L.Allows deed
  have resumed : w.Path allowed (w.resumeTask i d t).1 ∧ _ :=
    World.Path.refl.resumeTask here (fun _ => stands.commit) fun run wait deed same =>
      (target run wait same).deeds run deed
  refine ⟨law.path stands resumed.1 fun _ _ => id, fun next waits => ?_⟩
  cases known : t.run? with
  | none =>
      have forgets := resumed.2 known
      rw [waits] at forgets
      exact .inr (onTask_of_forgets (Task.before?_of_run? forgets))
  | some before =>
      obtain ⟨run, wait⟩ := before
      have same := Task.eq_of_run? known
      subst same
      have runs := Device.runs_resumeProvisioning (s := ⟨i, w.board, d, []⟩) run wait
      obtain ⟨later, rfl, remembers⟩ := runs.2 next waits
      cases told : d.isCancelled run with
      | true => exact .inl (World.isEnding_enter here runs (World.isEnding_of_getElem? here told))
      | false =>
          refine .inr fun before found => (target run wait rfl).before before ?_
          simpa [told] using remembers before found

theorem resume {k : Nat} (law : L.OnWorld w) (stands : L.Stands)
    (target : ∀ i run wait d, w.tasks[k]? = some (i, .provisioning run wait) →
      w.devices[i]? = some d → L.AllowsTarget (d.target? run wait)) :
    L.OnWorld (w.resume k) := by
  cases task : w.tasks[k]? with
  | none => simpa [World.resume, task] using law
  | some entry =>
      obtain ⟨i, t⟩ := entry
      cases here : w.devices[i]? with
      | none =>
          simp only [World.resume, task, here]
          exact ⟨law.flash, law.devices,
            fun j u found => law.tasks j u (List.mem_of_mem_eraseIdx found)⟩
      | some d =>
          rw [World.resume_eq task here]
          have after := law.resumeTask (t := t) stands here fun run wait same =>
            target i run wait d (same ▸ task) here
          exact after.1.withStep after.2

/-! Systems -/

theorem append (law : L.OnWorld w) (device : L.OnDevice d) :
    L.OnWorld { w with devices := w.devices ++ [d] } := by
  refine ⟨law.flash, fun e found => ?_, fun j t found => ?_⟩
  · rcases List.mem_append.mp found with found | found
    · exact law.devices e found
    · rw [List.mem_singleton.mp found]
      exact device
  · exact (law.tasks j t found).imp_left (World.isEnding_append _)

theorem bootOnly {options : Options} {info : DeviceInfo} {hooked : Bool} (law : L.OnWorld w)
    (stands : L.Stands) : L.OnWorld (w.bootOnly options info hooked) := by
  have made : L.OnDevice (.make options info hooked) :=
    ⟨stands.fresh, by simp [Device.outcomes, Device.make]⟩
  let allowed (_ : Nat) (deed : Deed) : Prop := L.Allows deed
  have booted : World.Path allowed { w with devices := w.devices ++ [.make options info hooked] }
      (w.bootOnly options info hooked) := .bootOnly fun deed boots => ?_
  · exact (law.append made).path stands booted fun _ _ => id
  cases boots with
  | load => exact stands.load
  | observe status => exact stands.observe status
  | spawn other => exact allows_spawn (onTask_of_forgets (Task.before?_of_run? other))
  | enroll subscriptions => exact allows_enroll

end OnWorld

/-! Scenes -/

/-- What an event makes a system do, apart from the steps of its tasks and from sessions. -/
def May (p : Scene) (e : Event) (d : Deed) : Prop :=
  match e with
  | .notify n => n.May (fun _ => False) d
  | .request _ r => r.May d
  | .clickEasyLink _ => d = .change .reconfigure
  | .holdEasyLink _ => d = .change .restoreDefaults ∨ d = .commit
  | .chunk .. => Upload.MayReceive d
  | .finish k => ∃ t ∈ p.running? k, t.upload.MayFinish d
  | _ => False

/-- The run that an event takes a step further, on which system. -/
def Steps (p : Scene) (e : Event) (d : Device) (run : Nat) (wait : RunWait) : Prop :=
  ∃ k i, e = .resume k ∧ p.world.tasks[k]? = some (i, .provisioning run wait) ∧
    p.world.devices[i]? = some d

inductive Occasion (p : Scene) (e : Event) : Deed → Prop
  | commit : Occasion p e .commit
  | notification {n : Notification} {c : Change} :
      e = .notify n → n.Brings c → Occasion p e (.change c)
  | written {i : Nat} {r : Server.Request} {u : Update} :
      e = .request i r → Server.Resource.ofPath? r.path = some .settings → u ∈ r.update? →
        Occasion p e (.change (.update u))
  | softApWritten (u : Update) : Occasion p e (.change (.updateSoftAp u))
  | softApJoin (due : Nat) (params : JoinParams) : Occasion p e (.spawn (.softApJoin due params))
  | reconfigure : Occasion p e (.change .reconfigure)
  | restoreDefaults : Occasion p e (.change .restoreDefaults)
  | received {k : Nat} {data : Bytes} {d : Deed} :
      e = .chunk k data → Upload.MayReceive d → Occasion p e d
  | installed {k : Nat} {x : Transfer} {t : BootTable} :
      e = .finish k → x ∈ p.running? k → x.upload.bootTable = .ok t →
        Occasion p e (.change (.install t))

theorem May.occasion {p : Scene} {e : Event} {d : Deed} (may : May p e d) : Occasion p e d := by
  cases e with
  | notify n =>
      cases may with
      | commit => exact .commit
      | brings brings => exact .notification rfl brings
      | session _ listening => exact listening.elim
  | request i r =>
      cases may with
      | update path read => exact .written rfl path read
      | updateSoftAp _ _ => exact .softApWritten _
      | commit _ => exact .commit
      | softApJoin due params _ _ => exact .softApJoin due params
  | clickEasyLink i =>
      cases may
      exact .reconfigure
  | holdEasyLink i =>
      rcases may with rfl | rfl
      · exact .restoreDefaults
      · exact .commit
  | chunk k data => exact .received rfl may
  | finish k =>
      obtain ⟨x, running, finishes⟩ := may
      cases finishes with
      | install named => exact .installed rfl running named
      | commit => exact .commit
  | _ => exact may.elim

theorem chunk_of_may {p : Scene} {e : Event} {d : Deed} (may : May p e d)
    (receives : Upload.MayReceive d) : ∃ k data, e = .chunk k data := by
  cases may.occasion with
  | received same _ => exact ⟨_, _, same⟩
  | _ => cases receives

theorem install_of_may {p : Scene} {e : Event} {t : BootTable}
    (may : May p e (.change (.install t))) :
    ∃ k, ∃ x ∈ p.running? k, e = .finish k ∧ x.upload.bootTable = .ok t := by
  cases may.occasion with
  | installed same running named => exact ⟨_, _, running, same, named⟩
  | received _ receives => cases receives
  | notification _ brings => cases brings

/-- What a run can go back to is what it remembers, or what it finds when it starts. -/
theorem OnWorld.remembers {p : Scene} {e : Event} {d : Device} {run : Nat} {wait : RunWait}
    (law : L.OnWorld p.world) (steps : Steps p e d run wait)
    (starts : wait = .start → ∀ before ∈ d.target? run .start, L.before before) :
    ∀ before ∈ d.target? run wait, L.before before := by
  obtain ⟨k, i, -, task, here⟩ := steps
  by_cases fresh : wait = .start
  · exact fresh ▸ starts fresh
  intro before target
  rw [Device.target?_of_ne_start fresh] at target
  cases told : d.isCancelled run with
  | true => simp [told] at target
  | false =>
      rcases law.tasks i _ (List.mem_of_getElem? task) with ending | known
      · simp [World.isEnding, here, Device.isEnding, told] at ending
      · have remembered : before ∈ wait.before? := by simpa [told] using target
        exact known before remembered

theorem OnWorld.step {p : Scene} {e : Event} (law : L.OnWorld p.world) (stands : L.Stands)
    (permits : p.permits e) (allows : ∀ d, May p e d → L.Allows d)
    (target : ∀ d run wait, Steps p e d run wait → L.AllowsTarget (d.target? run wait)) :
    L.OnWorld (p.step e).world := by
  by_cases goesOn : ∃ k, e = .resume k
  · obtain ⟨k, rfl⟩ := goesOn
    exact law.resume stands fun i run wait d task here => target d run wait ⟨k, i, rfl, task, here⟩
  by_cases fails : e = .powerLoss
  · subst fails
    refine ⟨law.flash, ?_, ?_⟩
    · simp [Scene.step, World.loseAll, World.make]
    · simp [Scene.step, World.loseAll, World.make]
  by_cases boots : ∃ options info hooked, e = .boot options info hooked
  · obtain ⟨options, info, hooked, rfl⟩ := boots
    exact law.bootOnly stands
  have path := p.path_step permits (fun k same => goesOn ⟨k, same⟩) fails
    fun options info hooked same => boots ⟨options, info, hooked, same⟩
  refine law.path stands path fun i d does => ?_
  cases does with
  | handle may =>
      cases may with
      | commit => exact stands.commit
      | brings brings => exact allows _ (.brings brings)
      | session _ _ => exact allows_session
  | commitBefore k => exact absurd rfl (goesOn ⟨k, ·⟩)
  | goOn _ _ _ => exact absurd ⟨_, rfl⟩ goesOn
  | boot _ => exact absurd ⟨_, _, _, rfl⟩ boots
  | enroll _ subscriptions => exact allows_enroll
  | answer may => exact allows _ may
  | reconfigure _ => exact allows _ rfl
  | restoreDefaults _ => exact allows _ (.inl rfl)
  | commitDefaults _ => exact stands.commit
  | commit _ => exact stands.commit
  | receive _ receives => exact allows _ receives
  | finish running finishes => exact allows _ ⟨_, running, finishes⟩

end Law
end ConnectedDevice
