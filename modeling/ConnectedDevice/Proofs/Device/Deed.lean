import ConnectedDevice.World

/-!
What the acts of a system do to its settings, the flash, the tasks and the runs, deed by deed. All
else is silent here: commands, registrations, power requests and the monitor. A statement about an
act names the deeds that it may do and the answers that it may give.
-/

namespace ConnectedDevice

/-- How the settings of a system can change. -/
inductive Change where
  | observe (status : RuntimeStatus)
  | credentials (c : Credentials)
  | addresses (staticIp : Option StaticIp)
  | learn (ap : AccessPoint)
  | advance (next : ConfigState)
  | clearBypass
  | restore (system : SystemConfig)
  | update (u : Update)
  | updateSoftAp (u : Update)
  | install (t : BootTable)
  | reconfigure
  | restoreDefaults

def Change.apply : Change → Settings → Settings
  | .observe status, s => { s with status }
  | .credentials c, s => s.modifySystem (·.setCredentials c.ssid c.key)
  | .addresses staticIp, s => s.modifySystem (Provisioning.setAddresses staticIp)
  | .learn ap, s => s.modifySystem (·.learn ap)
  | .advance next, s => s.modifySystem (·.advance next)
  | .clearBypass, s => s.modifySystem ({ · with bypass := .no })
  | .restore system, s => s.modifySystem fun _ => system
  | .update u, s => s.modifySystem fun c => (u.apply c).1.advance .allConfigured
  | .updateSoftAp u, s => s.modifySystem fun c => (u.apply { c with bypass := .no }).1
  | .install t, s => Upload.install t s
  | .reconfigure, s => s.modifySystem fun c => { c with bypass := .no }.requestReconfiguration
  | .restoreDefaults, s => { s with record := s.record.restoreDefaults }

/-- A field that an update leaves alone. -/
theorem Update.Edited.field_set {α β : Type} [BEq α] (field : SystemConfig → β) (e : Edited)
    (get : SystemConfig → α) (put : SystemConfig → α → SystemConfig) (o : Option α)
    (keeps : ∀ c x, field (put c x) = field c) :
    field (e.set get put o).config = field e.config := by
  cases o with
  | none => rfl
  | some x => exact keeps e.config x

inductive Deed where
  | change (c : Change)
  /-- reads the record from flash -/
  | load
  | commit
  /-- both concern the partition for received images -/
  | erase
  | write (offset : Nat) (data : Bytes)
  | spawn (t : Task)
  /-- lists a further run and starts its task, unless a run goes on -/
  | enroll (subscriptions : List (NotificationKind × Nat))
  | session (run : Nat) (f : Session → Session)
  | close (run : Nat) (outcome : Outcome)

def Store.change (c : Change) (s : Store) : Store := { s with loaded := s.loaded.map c.apply }

def Device.enroll (d : Device) (subscriptions : List (NotificationKind × Nat)) : Device :=
  { d with
    provisioning := true
    runs := d.runs ++ [⟨d.options.mode.discoveryMethod?, .fresh, false, subscriptions, none⟩] }

def Site.enroll (s : Site) (subscriptions : List (NotificationKind × Nat)) : Site :=
  { s with
    device := s.device.enroll subscriptions
    spawned := s.spawned ++ [.provisioning s.device.runs.length .start] }

def Device.close (d : Device) (run : Nat) (outcome : Outcome) : Device :=
  { d.modifyRun run (fun r => { r with outcome := some outcome }) with provisioning := false }

def Deed.perform : Deed → Site → Site
  | .change c, s => { s with device := { s.device with store := s.device.store.change c } }
  | .load, s => (Device.load.run s).2
  | .commit, s => (Act.commit.run s).2
  | .erase, s => ((Act.onFlash (·.erase .otaTemp)).run s).2
  | .write offset data, s => ((Act.onFlash (·.write .otaTemp offset data)).run s).2
  | .spawn t, s => { s with spawned := s.spawned ++ [t] }
  | .enroll subscriptions, s => if s.device.provisioning then s else s.enroll subscriptions
  | .session run f, s => { s with device := s.device.modifySession run f }
  | .close run outcome, s => { s with device := s.device.close run outcome }

def Device.outcomes (d : Device) : List Outcome := d.runs.filterMap (·.outcome)

/-- A later run differs in silent matters only. What was told to end stays so. -/
structure Run.Same (r later : Run) : Prop where
  method : later.method = r.method
  session : later.session = r.session
  cancelled : r.cancelled → later.cancelled
  outcome : later.outcome = r.outcome

structure Device.Same (d later : Device) : Prop where
  store : later.store = d.store
  options : later.options = d.options
  provisioning : later.provisioning = d.provisioning
  length : later.runs.length = d.runs.length
  runs : ∀ {run : Nat} {r : Run}, d.runs[run]? = some r → ∃ l, later.runs[run]? = some l ∧ r.Same l
  stopped : d.stopped → later.stopped

structure Site.Same (s t : Site) : Prop where
  device : s.device.Same t.device
  flash : t.board.flash = s.board.flash
  spawned : t.spawned = s.spawned

/-- Nothing was done but to give commands. -/
structure Site.Quiet (s t : Site) : Prop where
  device : t.device = s.device
  hardware : t.board.hardware = s.board.hardware
  flash : t.board.flash = s.board.flash
  spawned : t.spawned = s.spawned

inductive Site.Leads (may : Deed → Prop) (s : Site) : Site → Prop
  | refl : Leads may s s
  | silent {t u : Site} : Leads may s t → t.Same u → Leads may s u
  | deed {t : Site} (d : Deed) : Leads may s t → may d → Leads may s (d.perform t)

/-- The act does no other deeds on this site than it may, and answers as it should. -/
def Site.Runs {α : Type} (s : Site) (may : Deed → Prop) (answer : α → Prop) (act : Act α) : Prop :=
  s.Leads may (act s).2 ∧ answer (act s).1

/-- The act does no deed at all. -/
def Act.Silent {α : Type} (act : Act α) : Prop := ∀ s : Site, s.Same (act s).2

def Act.Quiet {α : Type} (act : Act α) : Prop := ∀ s : Site, s.Quiet (act s).2

def anyway {α : Type} (_ : α) : Prop := True

theorem Act.bind_apply {α β : Type} (x : Act α) (rest : α → Act β) (s : Site) :
    (x >>= rest) s = rest (x s).1 (x s).2 := rfl

theorem Act.device_bind {α : Type} (rest : Device → Act α) (s : Site) :
    (device >>= rest) s = rest s.device s := rfl

theorem Fallible.bind_apply {α β : Type} (x : Fallible α) (rest : α → Fallible β) (s : Site) :
    (x >>= rest).run s =
      match (x.run s).1 with
      | .ok a => (rest a).run (x.run s).2
      | .error e => (.error e, (x.run s).2) := by
  rw [ExceptT.run_bind, Act.bind_apply]
  cases (x.run s).1 <;> rfl

/-- Inside an act that can fail, one that cannot. -/
theorem Fallible.bind_lift {α β : Type} (act : Act α) (rest : α → Fallible β) :
    (liftM act >>= rest).run = act >>= fun a => (rest a).run := rfl

theorem Act.settings_of_loaded {s : Site} {st : Settings}
    (loaded : s.device.store.loaded = some st) : settings.run s = (.ok st, s) := by
  have read : settings.run s = (s.device.store.lock, s) := rfl
  rw [read, Store.lock, loaded]

theorem Act.settings_of_unloaded {s : Site} (unloaded : s.device.store.loaded = none) :
    settings.run s = (.error .storeNotInitialized, s) := by
  have read : settings.run s = (s.device.store.lock, s) := rfl
  rw [read, Store.lock, unloaded]

theorem Run.Same.refl (r : Run) : r.Same r := ⟨rfl, rfl, id, rfl⟩

theorem Run.Same.trans {r s t : Run} (first : r.Same s) (second : s.Same t) : r.Same t :=
  ⟨second.method.trans first.method, second.session.trans first.session,
    fun told => second.cancelled (first.cancelled told), second.outcome.trans first.outcome⟩

theorem Device.Same.refl (d : Device) : d.Same d :=
  ⟨rfl, rfl, rfl, rfl, fun here => ⟨_, here, .refl _⟩, id⟩

theorem Act.Quiet.silent {α : Type} {act : Act α} (quiet : act.Quiet) : act.Silent :=
  fun s => ⟨(quiet s).device ▸ .refl s.device, (quiet s).flash, (quiet s).spawned⟩

theorem Device.Same.trans {d e f : Device} (first : d.Same e) (second : e.Same f) : d.Same f where
  store := second.store.trans first.store
  options := second.options.trans first.options
  provisioning := second.provisioning.trans first.provisioning
  length := second.length.trans first.length
  runs here :=
    let ⟨_, there, kept⟩ := first.runs here
    let ⟨l, last, same⟩ := second.runs there
    ⟨l, last, kept.trans same⟩
  stopped told := second.stopped (first.stopped told)

namespace Site

variable {may more : Deed → Prop} {s t u : Site} {α β : Type}

theorem Same.refl (s : Site) : s.Same s := ⟨.refl s.device, rfl, rfl⟩

theorem Same.trans (first : s.Same t) (second : t.Same u) : s.Same u :=
  ⟨first.device.trans second.device, second.flash.trans first.flash,
    second.spawned.trans first.spawned⟩

theorem Leads.trans (first : s.Leads may t) (second : t.Leads may u) : s.Leads may u := by
  induction second with
  | refl => exact first
  | silent _ same ih => exact .silent ih same
  | deed d _ allowed ih => exact .deed d ih allowed

theorem Leads.mono (weaker : ∀ d, may d → more d) (leads : s.Leads may t) : s.Leads more t := by
  induction leads with
  | refl => exact .refl
  | silent _ same ih => exact .silent ih same
  | deed d _ allowed ih => exact .deed d ih (weaker d allowed)

/-- What a site satisfies is kept by silent matters and by each deed that may be done. -/
theorem Leads.invariant {inv : Site → Prop} (leads : s.Leads may t)
    (silent : ∀ s t, s.Same t → inv s → inv t) (deed : ∀ d s, may d → inv s → inv (d.perform s))
    (start : inv s) : inv t := by
  induction leads with
  | refl => exact start
  | silent _ same ih => exact silent _ _ same ih
  | deed d _ allowed ih => exact deed d _ allowed ih

namespace Runs

variable {answer : α → Prop} {final : β → Prop} {act : Act α} {rest : α → Act β}

theorem pure {a : α} (right : answer a) : s.Runs may answer (pure a) := ⟨.refl, right⟩

theorem bind (first : s.Runs may answer act)
    (next : ∀ a (t : Site), answer a → t.Runs may final (rest a)) :
    s.Runs may final (act >>= rest) := by
  have second := next (act s).1 (act s).2 first.2
  exact ⟨first.1.trans second.1, second.2⟩

/-- A silent act leaves what is known of the site. -/
theorem bindSilent (silent : act.Silent)
    (next : ∀ a (t : Site), s.Same t → t.Runs may final (rest a)) :
    s.Runs may final (act >>= rest) := by
  have second := next (act s).1 (act s).2 (silent s)
  exact ⟨(Leads.silent .refl (silent s)).trans second.1, second.2⟩

/-- A quiet act leaves the system, to the bit. -/
theorem bindQuiet (quiet : act.Quiet)
    (next : ∀ a (t : Site), t.device = s.device → t.Runs may final (rest a)) :
    s.Runs may final (act >>= rest) := by
  have second := next (act s).1 (act s).2 (quiet s).device
  exact ⟨(Leads.silent .refl (quiet.silent s)).trans second.1, second.2⟩

theorem device {rest : Device → Act β} (next : s.Runs may final (rest s.device)) :
    s.Runs may final (Act.device >>= rest) := next

theorem now {rest : Nat → Act β} (next : s.Runs may final (rest s.board.now)) :
    s.Runs may final (Act.now >>= rest) := next

theorem mono {other : α → Prop} (runs : s.Runs may answer act) (weaker : ∀ d, may d → more d)
    (implied : ∀ a, answer a → other a) : s.Runs more other act :=
  ⟨runs.1.mono weaker, implied _ runs.2⟩

theorem ofSilent (silent : act.Silent) : s.Runs may anyway act :=
  ⟨.silent .refl (silent s), trivial⟩

/-- An act that can fail goes on only if it did not. -/
theorem bindOk {x : Fallible α} {rest : α → Fallible β} {answer : Except Error α → Prop}
    {final : Except Error β → Prop} (first : s.Runs may answer x.run)
    (ok : ∀ a (t : Site), answer (.ok a) → t.Runs may final (rest a).run)
    (error : ∀ e, answer (.error e) → final (.error e)) : s.Runs may final (x >>= rest).run := by
  rw [ExceptT.run_bind]
  refine first.bind fun a t known => ?_
  cases a with
  | ok a => exact ok a t known
  | error e => exact pure (error e known)

theorem bindLift {rest : α → Fallible β} {final : Except Error β → Prop}
    (first : s.Runs may answer act)
    (next : ∀ a (t : Site), answer a → t.Runs may final (rest a).run) :
    s.Runs may final (liftM act >>= rest).run := by
  rw [Fallible.bind_lift]
  exact first.bind next

theorem bindSilentLift {act : Act α} {rest : α → Fallible β} {final : Except Error β → Prop}
    (silent : act.Silent)
    (next : ∀ a (t : Site), s.Same t → t.Runs may final (rest a).run) :
    s.Runs may final (liftM act >>= rest).run := by
  rw [Fallible.bind_lift]
  exact bindSilent silent next

theorem bindSilentOk {x : Fallible α} {rest : α → Fallible β} {final : Except Error β → Prop}
    (silent : Act.Silent x.run)
    (ok : ∀ a (t : Site), s.Same t → t.Runs may final (rest a).run)
    (error : ∀ e, final (.error e)) : s.Runs may final (x >>= rest).run := by
  rw [ExceptT.run_bind]
  refine bindSilent silent fun a t same => ?_
  cases a with
  | ok a => exact ok a t same
  | error e => exact pure (error e)

theorem bindOfExcept {r : Except Error α} {rest : α → Fallible β}
    {final : Except Error β → Prop} (ok : ∀ a, r = .ok a → s.Runs may final (rest a).run)
    (error : ∀ e, final (.error e)) : s.Runs may final (Fallible.ofExcept r >>= rest).run := by
  cases r with
  | ok a => exact ok a rfl
  | error e => exact pure (error e)

theorem liftDevice {rest : Device → Fallible β} {final : Except Error β → Prop}
    (next : s.Runs may final (rest s.device).run) :
    s.Runs may final (liftM Act.device >>= rest).run := next

theorem liftNow {rest : Nat → Fallible β} {final : Except Error β → Prop}
    (next : s.Runs may final (rest s.board.now).run) :
    s.Runs may final (liftM Act.now >>= rest).run := next

theorem bindSettings {rest : Settings → Fallible β} {final : Except Error β → Prop}
    (loaded : ∀ st, s.device.store.loaded = some st → s.Runs may final (rest st).run)
    (error : ∀ e, final (.error e)) : s.Runs may final (Act.settings >>= rest).run := by
  unfold Site.Runs at loaded ⊢
  rw [Fallible.bind_apply]
  cases known : s.device.store.loaded with
  | none =>
      rw [Act.settings_of_unloaded known]
      exact ⟨.refl, error _⟩
  | some st =>
      rw [Act.settings_of_loaded known]
      exact loaded st known

end Runs
end Site
end ConnectedDevice
