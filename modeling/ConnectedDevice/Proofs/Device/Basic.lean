import ConnectedDevice.Proofs.Device.Deed

/-!
The acts that all others are made of: most are silent, the rest do one deed each.
-/

namespace ConnectedDevice

namespace Device

variable (d : Device)

theorem outcomes_modifyRun {f : Run → Run} (run : Nat) (keeps : ∀ r, (f r).outcome = r.outcome) :
    (d.modifyRun run f).outcomes = d.outcomes := by
  simp only [outcomes, modifyRun]
  generalize d.runs = runs
  induction runs generalizing run with
  | nil => simp
  | cons r runs ih =>
      cases run with
      | zero => simp [List.filterMap_cons, keeps]
      | succ run => simp [List.filterMap_cons, ih]

theorem isCancelled_modifyRun {f : Run → Run} {run other : Nat}
    (keeps : ∀ r, r.cancelled → (f r).cancelled) (told : d.isCancelled other) :
    (d.modifyRun run f).isCancelled other := by
  rcases Bool.or_eq_true_iff.mp told with stopped | cancelled
  · exact Bool.or_eq_true_iff.mpr (.inl stopped)
  · obtain ⟨r, here, told⟩ := (Option.any_eq_true _ _).mp cancelled
    refine Bool.or_eq_true_iff.mpr (.inr ?_)
    simp only [modifyRun, List.getElem?_modify, here, Option.map_eq_map, Option.map_some,
      Option.any_some]
    split
    · exact keeps r told
    · exact told

theorem isCancelled_append {run : Nat} (more : List Run) (told : d.isCancelled run) :
    { d with runs := d.runs ++ more }.isCancelled run := by
  rcases Bool.or_eq_true_iff.mp told with stopped | cancelled
  · exact Bool.or_eq_true_iff.mpr (.inl stopped)
  · obtain ⟨r, here, told⟩ := (Option.any_eq_true _ _).mp cancelled
    have inside := (List.getElem?_eq_some_iff.mp here).1
    have kept : (d.runs ++ more)[run]? = some r := by
      rw [List.getElem?_append_left inside, here]
    exact Bool.or_eq_true_iff.mpr (.inr (by simp [kept, told]))

theorem session_modifySession {run : Nat} (inside : run < d.runs.length) (f : Session → Session) :
    (d.modifySession run f).session run = f (d.session run) := by
  simp [session, modifySession, modifyRun, inside]

namespace Same

variable {d} {later : Device}

theorem ofKept (store : later.store = d.store) (runs : later.runs = d.runs)
    (stopped : later.stopped = d.stopped) (options : later.options = d.options := by rfl)
    (provisioning : later.provisioning = d.provisioning := by rfl) : d.Same later where
  store := store
  options := options
  provisioning := provisioning
  length := by rw [runs]
  runs {run r} here := ⟨r, runs ▸ here, .refl r⟩
  stopped told := stopped ▸ told

theorem modifyRun {f : Run → Run} (run : Nat) (same : ∀ r : Run, r.Same (f r)) :
    d.Same (d.modifyRun run f) where
  store := rfl
  options := rfl
  provisioning := rfl
  length := List.length_modify ..
  runs {other r} here := by
    simp only [Device.modifyRun, List.getElem?_modify, here, Option.map_eq_map, Option.map_some]
    split
    · exact ⟨f r, rfl, same r⟩
    · exact ⟨r, rfl, .refl r⟩
  stopped := id

theorem outcomes (same : d.Same later) : later.outcomes = d.outcomes := by
  have each : later.runs.map (·.outcome) = d.runs.map (·.outcome) := by
    refine List.ext_getElem? fun run => ?_
    simp only [List.getElem?_map]
    cases here : d.runs[run]? with
    | none =>
        have beyond : later.runs.length ≤ run := same.length ▸ List.getElem?_eq_none_iff.mp here
        rw [List.getElem?_eq_none beyond]
    | some r =>
        obtain ⟨l, there, kept⟩ := same.runs here
        simp [there, kept.outcome]
  have through (e : Device) : e.outcomes = (e.runs.map (·.outcome)).filterMap id := by
    simp only [Device.outcomes, List.filterMap_map]
    rfl
  rw [through, through, each]

theorem cancelled (same : d.Same later) (run : Nat) (told : d.isCancelled run) :
    later.isCancelled run := by
  rcases Bool.or_eq_true_iff.mp told with stopped | cancelled
  · exact Bool.or_eq_true_iff.mpr (.inl (same.stopped stopped))
  · obtain ⟨r, here, told⟩ := (Option.any_eq_true _ _).mp cancelled
    obtain ⟨l, there, kept⟩ := same.runs here
    refine Bool.or_eq_true_iff.mpr (.inr ?_)
    simp [there, kept.cancelled told]

end Same

theorem mem_outcomes_close {run : Nat} {ended outcome : Outcome}
    (found : outcome ∈ (d.close run ended).outcomes) :
    outcome ∈ d.outcomes ∨ outcome = ended := by
  obtain ⟨r, member, ends⟩ := List.mem_filterMap.mp found
  obtain ⟨i, here⟩ := List.mem_iff_getElem?.mp member
  simp only [close, modifyRun, List.getElem?_modify] at here
  obtain ⟨old, before, rfl⟩ := Option.map_eq_some_iff.mp here
  split at ends
  · exact .inr (by simpa using ends.symm)
  · exact .inl (List.mem_filterMap.mpr ⟨old, List.mem_iff_getElem?.mpr ⟨i, before⟩, ends⟩)

end Device

namespace Act

variable {α β : Type}

theorem Silent.pure (a : α) : Silent (pure a : Act α) := Site.Same.refl

theorem Silent.bind {x : Act α} {rest : α → Act β} (first : Silent x)
    (next : ∀ a, Silent (rest a)) : Silent (x >>= rest) :=
  fun s => (first s).trans (next (x s).1 (x s).2)

theorem Silent.bindOk {x : Fallible α} {rest : α → Fallible β} (first : Silent x.run)
    (next : ∀ a, Silent (rest a).run) : Silent (x >>= rest).run := by
  intro s
  rw [Fallible.bind_apply]
  cases (x.run s).1 with
  | ok a => exact (first s).trans (next a _)
  | error e => exact first s

theorem Silent.lift {act : Act α} (silent : act.Silent) : Silent (liftM act : Fallible α).run :=
  silent

theorem Silent.bindLift {act : Act α} {rest : α → Fallible β} (first : act.Silent)
    (next : ∀ a, Silent (rest a).run) : Silent (liftM act >>= rest).run := by
  rw [Fallible.bind_lift]
  exact first.bind next

theorem Silent.discard {act : Act α} (silent : act.Silent) : Silent (discard act) := silent

theorem silent_get : Silent (get : Act Site) := Site.Same.refl

theorem silent_device : Silent device := Site.Same.refl

theorem silent_now : Silent now := Site.Same.refl

theorem silent_ofExcept (r : Except Error α) : Silent (Fallible.ofExcept r).run := Site.Same.refl

theorem silent_throw (e : Error) : Silent (throw e : Fallible α).run := Site.Same.refl

theorem silent_modifyDevice {f : Device → Device} (same : ∀ d : Device, d.Same (f d)) :
    Silent (modifyDevice f) :=
  fun s => ⟨same s.device, rfl, rfl⟩

theorem silent_modifyCenter (f : Center Handler → Center Handler) : Silent (modifyCenter f) :=
  fun s => ⟨.refl s.device, rfl, rfl⟩

theorem quiet_issue (c : Command) : Quiet (issue c).run := fun _ => ⟨rfl, rfl, rfl, rfl⟩

theorem quiet_tell (c : Command) : Quiet (tell c) := quiet_issue c

theorem quiet_hook (h : Hook) : Quiet (hook h) := by
  intro s
  rw [hook, device_bind]
  split
  · exact quiet_tell _ s
  · exact ⟨rfl, rfl, rfl, rfl⟩

theorem quiet_announce (i : Interface) : Quiet (announce i) := fun s => quiet_tell _ s

theorem silent_issue (c : Command) : Silent (issue c).run := (quiet_issue c).silent

theorem silent_tell (c : Command) : Silent (tell c) := (quiet_tell c).silent

theorem silent_hook (h : Hook) : Silent (hook h) := (quiet_hook h).silent

theorem silent_announce (i : Interface) : Silent (announce i) := (quiet_announce i).silent

theorem silent_reannounce (i : Interface) : Silent (reannounce i) :=
  silent_device.bind fun _ => silent_tell _

theorem silent_connect (p : JoinParams) : Silent (connect p) := silent_tell _

theorem silent_setIdentifier (identifier : UInt32) : Silent (setIdentifier identifier) :=
  silent_modifyDevice fun _ => .ofKept rfl rfl rfl

theorem silent_requestPower (state : PowerState) : Silent (requestPower state) :=
  silent_modifyDevice fun _ => .ofKept rfl rfl rfl

theorem silent_markDirty : Silent markDirty :=
  silent_modifyDevice fun _ => .ofKept rfl rfl rfl

theorem silent_register (kind : NotificationKind) (h : Handler) :
    Silent (register kind h).run := by
  intro s
  simp only [register, ExceptT.run_mk]
  split
  · exact ⟨.refl s.device, rfl, rfl⟩
  · exact .refl s

theorem silent_unregister (subscriptions : List (NotificationKind × Nat)) :
    Silent (unregister subscriptions) := silent_modifyCenter _

variable {may : Deed → Prop} {s : Site}

theorem runs_setSettings {st : Settings} (c : Change) (loaded : s.device.store.loaded = some st)
    (allowed : may (.change c)) : s.Runs may anyway (setSettings (c.apply st)) := by
  have done := Site.Leads.deed (.change c) (.refl (s := s)) allowed
  simp only [Deed.perform, Store.change, loaded, Option.map_some] at done
  exact ⟨done, trivial⟩

theorem runs_commit (allowed : may .commit) : s.Runs may anyway commit.run :=
  ⟨.deed .commit .refl allowed, trivial⟩

theorem runs_tryCommit (allowed : may .commit) : s.Runs may anyway (discard commit.run) :=
  ⟨.deed .commit .refl allowed, trivial⟩

theorem runs_modifySession {run : Nat} {f : Session → Session}
    (allowed : may (.session run f)) :
    s.Runs may anyway (modifyDevice fun d => d.modifySession run f) :=
  ⟨.deed (.session run f) .refl allowed, trivial⟩

theorem runs_spawn {t : Task} (allowed : may (.spawn t)) : s.Runs may anyway (spawn t) :=
  ⟨.deed (.spawn t) .refl allowed, trivial⟩

end Act

def Site.setFlash (s : Site) (flash : Nor) : Site :=
  { s with board := { s.board with flash } }

theorem Act.onFlash_run (operation : Nor → Except FlashError Nor) (s : Site) :
    (Act.onFlash operation).run s =
      match operation s.board.flash with
      | .ok flash => (.ok (), s.setFlash flash)
      | .error e => (.error (.flash e), s) := by
  have read : (Act.onFlash operation).run s =
      (match operation s.board.flash with
        | .ok flash => (modify fun t : Site => t.setFlash flash : Fallible Unit)
        | .error e => (throw (Error.flash e) : Fallible Unit)).run s := rfl
  rw [read]
  cases operation s.board.flash <;> rfl

/-- Commits leave the store as it is. -/
theorem Site.Runs.store_eq {α : Type} {answer : α → Prop} {act : Act α} {s : Site}
    (runs : s.Runs (· = .commit) answer act) : (act s).2.device.store = s.device.store := by
  have kept := runs.1.invariant (fun _ _ same kept => same.device.store.trans kept)
    (fun d t commits kept => ?_) (Eq.refl s.device.store)
  · exact kept
  · subst commits
    exact kept

end ConnectedDevice
