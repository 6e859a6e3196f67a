import ConnectedDevice.Proofs.World.Progress
import ConnectedDevice.Proofs.World.Tidy

/-!
No registration leaks. What fails leaves all registrations as they were, a run that ends takes its
own with it, and a system that was stopped, and whose runs have ended, leaves those that there would
be without it.
-/

namespace ConnectedDevice

open Act

/-- The registrations that are not of the system. -/
def foreign (i : Nat) (l : List (Subscription Handler)) : List (Subscription Handler) :=
  l.filter (·.callback.party? ≠ some i)

/-- What a change of the registrations makes of a part of them: those that go are taken out, and
those that come are put behind. -/
def replay (before after l : List (Subscription Handler)) : List (Subscription Handler) :=
  l.filter (fun x => x ∉ before ∨ x ∈ after) ++ after.filter (· ∉ before)

namespace Scene

/-- The registrations of all kinds, in order. -/
def registrations (p : Scene) : List (Subscription Handler) := p.world.board.center.subscriptions

/-- The registrations that come about from the given ones by what all others do in the events, but
not the system. -/
def others (i : Nat) (p : Scene) (l : List (Subscription Handler)) :
    List Event → List (Subscription Handler)
  | [] => l
  | e :: events =>
    let next :=
      if p.party? e = some i then l else replay p.registrations (p.step e).registrations l
    (p.step e).others i next events

end Scene

section Lists

variable {i : Nat} {who : Option Nat} {c later : Center Handler}

open World

/-- What a system does leaves all registrations but its own. -/
theorem foreign_of_own (moves : MovesOf (some i) c later) :
    foreign i later.subscriptions = foreign i c.subscriptions := by
  obtain ⟨-, stays, new, same, gone, came⟩ := moves
  have nobody : new.filter (·.callback.party? ≠ some i) = [] := by
    refine List.filter_eq_nil_iff.mpr fun x found => ?_
    simpa using (came x found).1
  rw [foreign, foreign, same, List.filter_append, nobody, List.append_nil, List.filter_filter]
  refine List.filter_congr fun x found => ?_
  cases stayed : stays x with
  | true => rw [Bool.and_true]
  | false => simp [gone x found stayed i rfl]

theorem foreign_of_others (moves : MovesOf who c later) (other : who ≠ some i)
    (numbered : ∀ x ∈ c.subscriptions, x.id < c.nextId) : foreign i later.subscriptions =
      replay c.subscriptions later.subscriptions (foreign i c.subscriptions) := by
  obtain ⟨-, stays, new, same, gone, came⟩ := moves
  have further {x : Subscription Handler} (found : x ∈ c.subscriptions) : x ∉ new := fun made =>
    absurd (numbered x found) (Nat.not_lt.mpr (came x made).2.1)
  have stay {x : Subscription Handler} (found : x ∈ c.subscriptions) :
      x ∈ later.subscriptions ↔ stays x = true := by
    rw [same, List.mem_append, List.mem_filter]
    simp [found, further found]
  have come : later.subscriptions.filter (· ∉ c.subscriptions) = new := by
    have old : (c.subscriptions.filter stays).filter (· ∉ c.subscriptions) = [] := by
      refine List.filter_eq_nil_iff.mpr fun x found => ?_
      simpa using (List.mem_filter.mp found).1
    have young : new.filter (· ∉ c.subscriptions) = new := by
      refine List.filter_eq_self.mpr fun x made => ?_
      simpa using fun found => further found made
    rw [same, List.filter_append, old, young, List.nil_append]
  have theirs : new.filter (·.callback.party? ≠ some i) = new := by
    refine List.filter_eq_self.mpr fun x made => ?_
    simpa [(came x made).1] using other
  rw [replay, come]
  rw [foreign, foreign, same, List.filter_append, theirs, List.filter_filter, List.filter_filter]
  congr 1
  refine List.filter_congr fun x found => ?_
  rw [← same]
  simp [found, stay found, Bool.and_comm]

theorem foreign_eq_self {l : List (Subscription Handler)}
    (absent : ∀ x ∈ l, x.callback.party? ≠ some i) : foreign i l = l :=
  List.filter_eq_self.mpr fun x found => decide_eq_true (absent x found)

end Lists

/-- A run that ends gives up what it lists. -/
theorem Provisioning.center_close (run : Nat) (o : Outcome) (s : Site) :
    (close run o s).2.board.center =
      (unregister (s.device.keys (some run)) s).2.board.center := by
  have conduct : s.Conduct (fun _ => False) [] (hook .configWillStop s).2 := deals_hook _ s
  have aside := conduct.isAside fun _ => id
  let t := (hook .configWillStop s).2
  have rest : (close run o s).2.board.center =
      (unregister (t.device.keys (some run)) t).2.board.center := rfl
  simp only [rest, t, unregister_apply, aside.retains.keys, aside.center]

/-! Failures -/

namespace Site

variable {s t : Site} {h : Handler} {keys : List (NotificationKind × Nat)}

theorem start_refused {e : Error}
    (numbered : ∀ x ∈ s.board.center.subscriptions, x.id < s.board.center.nextId)
    (failed : (Provisioning.start.run s).1 = .error e) :
    (Provisioning.start.run s).2.board.center.subscriptions = s.board.center.subscriptions := by
  rw [Provisioning.start_run] at failed ⊢
  split
  · rfl
  next idle =>
    have registers := Provisioning.registers_all (.provisioning s.index s.device.runs.length)
      Provisioning.kinds s
    rw [if_neg idle] at failed
    dsimp only at failed ⊢
    split
    · exact registers.retracted numbered
    next all => simp [all] at failed

theorem registerHandlers_refused {e : Error}
    (numbered : ∀ x ∈ s.board.center.subscriptions, x.id < s.board.center.nextId)
    (failed : (Device.registerHandlers.run s).1 = .error e) :
    (Device.registerHandlers.run s).2.board.center.subscriptions =
      s.board.center.subscriptions := by
  have registers := Device.registers_inOrder (.system s.index) Device.kinds s
  rw [Device.registerHandlers, Fallible.get_bind, Fallible.bind_lift, bind_apply] at failed ⊢
  generalize Device.registerInOrder (.system s.index) Device.kinds s = registered
    at registers failed ⊢
  obtain ⟨⟨subscriptions, failure⟩, t⟩ := registered
  cases failure with
  | some e => exact registers.retracted numbered
  | none => cases failed

end Site

namespace World

variable {w : World} {i : Nat} {d : Device}

/-- A system that was stopped, and none of whose runs goes on, has no registrations. -/
theorem Filed.absent (filed : w.Filed)
    (silent : ∀ d, w.devices[i]? = some d → ∀ role, ¬d.GoesOn role) :
    ∀ x ∈ w.board.center.subscriptions, x.callback.party? ≠ some i := by
  intro x found party
  obtain ⟨role, callback⟩ := Handler.party?_eq_some.mp party
  have here := List.getElem?_eq_getElem (filed.known x found i party)
  exact silent _ here role ((filed.site here).held x found role callback).2

theorem Filed.absent_beyond (filed : w.Filed) :
    ∀ x ∈ w.board.center.subscriptions, x.callback.party? ≠ some w.devices.length :=
  fun x found party => Nat.lt_irrefl _ (filed.known x found _ party)

theorem Orderly.not_goesOn (orderly : w.Orderly) (here : w.devices[i]? = some d)
    (stopped : d.stopped) (ended : w.waits i = []) (role : Option Nat) : ¬d.GoesOn role := by
  intro goes
  cases role with
  | none =>
      have going : d.stopped = false := goes
      simp [going] at stopped
  | some run =>
      obtain ⟨r, there, going⟩ := goes
      have entry : d.ledger[run]? = some (r.method, none) := by simp [Device.ledger, there, going]
      have waits := ((orderly.device here).outcome entry).mp rfl
      simp [ended] at waits

end World

namespace Scene

open World

variable {p q : Scene} {e : Event} {i : Nat} {options : Options} {info : DeviceInfo}
  {hooked : Bool}

/-- A system that does not come up is stopped, and has no runs. -/
theorem device_boot_error {error : Error}
    (failed : (Device.boot.run
      ⟨p.world.devices.length, p.world.board, .make options info hooked, []⟩).1 = .error error) :
    ∃ d, (p.step (.boot options info hooked)).world.devices[p.world.devices.length]? = some d ∧
      d.stopped ∧ d.runs = [] := by
  let s : Site := ⟨p.world.devices.length, p.world.board, .make options info hooked, []⟩
  have conduct : s.Conduct (· ≠ .enroll) [] (Device.boot.run s).2 := by
    refine Device.conduct_boot ⟨rfl, rfl⟩ fun x _ ok enrolls => ?_
    have ok := ok enrolls
    rw [failed] at ok
    cases ok
  have none : (Device.boot.run s).2.device.runs = [] :=
    List.eq_nil_of_length_eq_zero (conduct.length_runs fun enrolls => enrolls rfl)
  have here : (p.world.booting options info hooked).devices[p.world.devices.length]? =
      some (Device.boot.run s).2.device := devices_enter _ List.getElem?_concat_length
  have answer : (Prod.fst <| World.enter
      { p.world with devices := p.world.devices ++ [.make options info hooked] }
      p.world.devices.length (.make options info hooked) Device.boot.run) = .error error := failed
  have stopped : (p.step (.boot options info hooked)).world =
      (p.world.booting options info hooked).run p.world.devices.length Device.stop := by
    simp only [Scene.step, World.bootOnly, World.booting]
    split
    next entered =>
      rw [entered] at answer
      cases answer
    next entered => rw [entered]
  rw [stopped]
  exact ⟨_, devices_run _ here, rfl, none⟩

/-- A run ends. -/
structure Ends (p : Scene) (e : Event) (i run : Nat) : Prop where
  permits : p.permits e
  before : ∃ wait, p.world.progress? i run = some (.waiting wait)
  after : ∃ o, (p.step e).world.progress? i run = some (.ended o)

/-- A run that ends does so in a step of its own. -/
theorem Ends.closes {run : Nat} (orderly : p.world.Orderly) (ends : p.Ends e i run) :
    ∃ d o t, p.world.devices[i]? = some d ∧ Site.Aside [] ⟨i, p.world.board, d, []⟩ t ∧
      (p.step e).world.devices[i]? = some (Provisioning.close run o t).2.device ∧
        (p.step e).world.board = (Provisioning.close run o t).2.board ∧
          (p.step e).world.waits i = [] := by
  obtain ⟨permits, ⟨wait, before⟩, ⟨o, after⟩⟩ := ends
  have later := orderly_step orderly permits
  have powered : e ≠ .powerLoss := by
    rintro rfl
    cases after
  have goes : ∃ wait, p.goesOn? e = some (i, run, wait) := by
    refine (p.goesOn?_cases e i run).resolve_right fun other => ?_
    cases (progress?_step orderly permits powered before other).symm.trans after
  obtain ⟨wait, goes⟩ := goes
  obtain ⟨k, rfl, task⟩ := goesOn?_eq_some.mp goes
  obtain ⟨d, here, -⟩ := orderly.progress?_waiting.mp before
  have waits := orderly.waits_resume task here
  obtain ⟨device, board, -⟩ := resume_run task here
  let s : Site := ⟨i, p.world.board, d, []⟩
  have conduct : s.Conduct (fun _ => False) [] (Provisioning.proceed run wait s).2 :=
    Provisioning.deals_proceed run wait s
  rw [Provisioning.resume_apply] at waits device board
  cases proceeds : Provisioning.proceed run wait s with
  | mk x t =>
      have aside := conduct.isAside fun _ => id
      rw [proceeds] at waits device board aside
      cases x with
      | waiting next =>
          have goesOn := later.progress?_waiting.mpr ⟨_, device, waits⟩
          cases goesOn.symm.trans after
      | ended o => exact ⟨d, o, t, here, aside, device, board, waits⟩

/-- The registrations of a run, and what is left when it has ended. -/
structure TakesBack (p : Scene) (e : Event) (i run : Nat) : Prop where
  /-- one of each kind, and they are those that are registered for the run -/
  own : ∃ keys : List (NotificationKind × Nat), keys.map (·.1) = Provisioning.kinds ∧
    (∀ x ∈ p.registrations, x.key ∈ keys ↔ x.callback = .provisioning i run) ∧
      (p.step e).registrations = p.registrations.filter (·.key ∉ keys)
  /-- another run can start -/
  free : (p.step e).world.waits i = [] ∧
    ∃ d, (p.step e).world.devices[i]? = some d ∧ d.provisioning = false

theorem Ends.takesBack {run : Nat} (orderly : p.world.Orderly) (filed : p.world.Filed)
    (ends : p.Ends e i run) : p.TakesBack e i run := by
  obtain ⟨d, o, t, here, aside, device, board, waits⟩ := ends.closes orderly
  obtain ⟨_, before⟩ := ends.before
  obtain ⟨_, known, going⟩ := orderly.progress?_waiting.mp before
  cases here.symm.trans known
  have site := filed.site here
  -- The run that waits is a run of the system.
  have last := (orderly.device here).last run (by simp [going])
  rw [Device.ledger, List.length_map] at last
  have inside : run < d.runs.length := by omega
  have keys : d.keys (some run) = (d.runs[run]).subscriptions := by simp [Device.keys, inside]
  refine ⟨⟨d.keys (some run), ?_, fun x found => ?_, ?_⟩, waits, _, device, ?_⟩
  · exact keys ▸ site.kinds _ (List.getElem_mem inside)
  · exact ⟨site.own x found (some run), fun callback => (site.held x found (some run) callback).1⟩
  · rw [registrations, board, Provisioning.center_close, unregister_apply, aside.retains.keys]
    simp only [aside.center]
    rfl
  · rw [Provisioning.device_close]
    rfl

/-! Whole lives of systems -/

theorem foreign_step (orderly : p.world.Orderly) (filed : p.world.Filed) (permits : p.permits e) :
    foreign i (p.step e).registrations =
      if p.party? e = some i then foreign i p.registrations
      else replay p.registrations (p.step e).registrations (foreign i p.registrations) := by
  by_cases powered : e = .powerLoss
  · subst powered
    have lost : (p.step .powerLoss).registrations = [] := rfl
    have gone :
        (foreign i p.registrations).filter (fun x => x ∉ p.registrations ∨ x ∈ []) = [] := by
      refine List.filter_eq_nil_iff.mpr fun x found => ?_
      simpa using (List.mem_filter.mp found).1
    rw [if_neg nofun, lost, replay, gone]
    rfl
  · have moves := (files_step orderly.manned permits powered filed).2
    split
    next party =>
      rw [party] at moves
      exact foreign_of_own moves
    next party => exact foreign_of_others moves party filed.numbered

theorem foreign_run {events : List Event} (orderly : p.world.Orderly) (filed : p.world.Filed)
    (ran : p.run always events = some q) :
    foreign i q.registrations = p.others i (foreign i p.registrations) events := by
  induction events generalizing p with
  | nil =>
      cases ran
      rfl
  | cons e events ih =>
      obtain ⟨permits, -, ran⟩ := run_cons ran
      rw [others, ih (orderly_step orderly permits) (filed_step orderly.manned permits filed) ran,
        foreign_step orderly filed permits]

/-- The system was stopped, and none of its runs goes on. -/
structure Shut (p : Scene) (i : Nat) : Prop where
  stopped : ∀ d, p.world.devices[i]? = some d → d.stopped
  ended : p.world.waits i = []

/-- No registration leaks, and a system has one run at a time. -/
structure LeaksNothing (p : Scene) : Prop where
  single : ∀ {i : Nat} {d : Device}, p.world.devices[i]? = some d →
    (p.world.waits i).length ≤ 1 ∧ (d.provisioning ↔ p.world.waits i ≠ [])
  refusedStart : ∀ {s : Site} {e : Error}, s.board = p.world.board →
    (Provisioning.start.run s).1 = .error e →
      (Provisioning.start.run s).2.board.center.subscriptions = p.registrations
  refusedHandlers : ∀ {s : Site} {e : Error}, s.board = p.world.board →
    (Device.registerHandlers.run s).1 = .error e →
      (Device.registerHandlers.run s).2.board.center.subscriptions = p.registrations
  refusedBoot : ∀ {options : Options} {info : DeviceInfo} {hooked : Bool} {e : Error},
    (Device.boot.run
      ⟨p.world.devices.length, p.world.board, .make options info hooked, []⟩).1 = .error e →
        (p.step (.boot options info hooked)).registrations = p.registrations
  ended : ∀ {e : Event} {i run : Nat}, p.Ends e i run → p.TakesBack e i run
  shut : ∀ {options : Options} {info : DeviceInfo} {hooked : Bool} {events : List Event}
    {q : Scene}, p.run always (.boot options info hooked :: events) = some q →
      q.Shut p.world.devices.length → q.registrations =
        p.others p.world.devices.length p.registrations (.boot options info hooked :: events)

theorem LeaksNothing.of (orderly : p.world.Orderly) (filed : p.world.Filed) :
    p.LeaksNothing where
  single {i d} here := by
    have count := (orderly.device here).count
    have most := Bool.toNat_le d.provisioning
    rw [List.length_map] at count
    refine ⟨by omega, ?_⟩
    rw [← List.length_pos_iff, count]
    cases d.provisioning <;> simp
  refusedStart same failed := by
    rw [Site.start_refused (same ▸ filed.numbered) failed, same]
    rfl
  refusedHandlers same failed := by
    rw [Site.registerHandlers_refused (same ▸ filed.numbered) failed, same]
    rfl
  refusedBoot {options info hooked e} failed := by
    obtain ⟨later, moves⟩ := files_step orderly.manned
      (e := .boot options info hooked) rfl nofun filed
    obtain ⟨d, here, stopped, runs⟩ := device_boot_error failed
    have silent := later.absent (i := p.world.devices.length) fun e there role goes => by
      cases here.symm.trans there
      cases role with
      | none =>
          have going : d.stopped = false := goes
          simp [going] at stopped
      | some run =>
          obtain ⟨r, there, -⟩ := goes
          simp [runs] at there
    have same := foreign_of_own moves
    rw [foreign_eq_self filed.absent_beyond, foreign_eq_self silent] at same
    exact same
  ended ends := ends.takesBack orderly filed
  shut {options info hooked events q} ran shut := by
    have later := orderly_run orderly ran
    have silent := (filed_run orderly filed ran).absent fun d here =>
      later.not_goesOn here (shut.stopped d here) shut.ended
    have same := foreign_run (i := p.world.devices.length) orderly filed ran
    rw [registrations, registrations, foreign_eq_self filed.absent_beyond,
      foreign_eq_self silent] at same
    exact same

theorem leaks_nothing {board : Board} (empty : board.center.subscriptions = [])
    (reachable : Reachable always (onBoard board) p) : p.LeaksNothing :=
  .of (orderly_reachable reachable) (filed_reachable empty reachable)

/-- A system whose run fails, among registrations of the application. -/
def sharedLife : List Event :=
  [.boot sampleOptions DeviceInfo.product false, .resume 1, .subscribe "late" .easyLinkCompleted,
    .notify (.easyLinkCompleted none), .resume 1, .stop 0]

set_option maxRecDepth 4000 in
theorem leaks_nothing_sharedLife :
    let p := sample.step (.subscribe "early" .wifiStatusChanged)
    ∃ q ∈ p.run always sharedLife,
      q.Shut 0 ∧ q.registrations = p.others 0 p.registrations sharedLife ∧
        q.registrations.map (·.callback) = [.application "early", .application "late"] := by
  intro p
  have subscribed : Reachable Scene.always sample p := .step .start rfl rfl
  have books : p.LeaksNothing := leaks_nothing rfl subscribed
  have ran : (p.run always sharedLife).any fun q =>
      ((q.world.devices[0]?).all (·.stopped) ∧ q.world.waits 0 = []) ∧
        q.registrations.map (·.callback) = [.application "early", .application "late"] := by
    decide +kernel
  obtain ⟨q, ran, known⟩ := (Option.any_eq_true _ _).mp ran
  obtain ⟨⟨stopped, ended⟩, left⟩ := of_decide_eq_true known
  have shut : q.Shut 0 := ⟨fun d here => by simpa [here] using stopped, ended⟩
  exact ⟨q, ran, shut, books.shut ran shut, left⟩

end Scene
end ConnectedDevice
