import ConnectedDevice.Proofs.Provisioning.Refusal
import ConnectedDevice.Proofs.World.Orderly
import ConnectedDevice.Proofs.World.Record

/-!
Networks that were never joined. A record counts as fully configured once its network was joined or
its settings were written over the network. A run that does not come that far goes back to the
settings from before it; when these are settings that an earlier run received and left behind, the
roll back takes them for those of a network that was joined before.
-/

namespace ConnectedDevice

def Change.Promotes : Change → Prop
  | .advance next => next = .allConfigured
  | .restore system => system.configured = .allConfigured
  | .update _ => True
  | _ => False

/-- The request brings settings from the network that the device is on. -/
def Server.Request.writes (r : Server.Request) : Bool :=
  Server.Resource.ofPath? r.path = some .settings && r.update?.isSome

namespace Scene

variable (p : Scene)

def Promoted : Prop :=
  (∃ r ∈ p.world.board.flash.stored?, r.isPromoted) ∨
    ∃ d ∈ p.world.devices, d.Promoted ∨ .rolledBack ∈ d.outcomes

instance : Decidable p.Promoted :=
  inferInstanceAs (Decidable ((∃ r ∈ p.world.board.flash.stored?, r.isPromoted) ∨
    ∃ d ∈ p.world.devices, d.Promoted ∨ .rolledBack ∈ d.outcomes))

/-- No station comes up, and no request to write settings is answered well. -/
def unjoined : Event → Bool
  | .notify (.wifiStatusChanged .stationUp) => false
  | .request i r =>
    Server.Resource.ofPath? r.path ≠ some .settings || p.status? i r ≠ some 200
  | _ => true

/-- The task is a run that starts and can go back to settings which an earlier run received. -/
def startsUnverified (k : Nat) : Bool :=
  match p.world.tasks[k]? with
  | some (i, .provisioning run .start) =>
    (p.world.devices[i]?).any fun d =>
      (d.target? run .start).any (·.configured = .wlanUnconfigured)
  | _ => false

def overwrites (i : Nat) (r : Server.Request) : Bool :=
  r.writes && (p.world.devices[i]?).any (·.store.loaded.isSome)

/-- Besides, no run starts from unverified settings, and no settings are written that the answer
does not confirm. -/
def careful : Event → Bool
  | .resume k => !p.startsUnverified k
  | .request i r => p.unjoined (.request i r) && !p.overwrites i r
  | e => p.unjoined e

variable {p : Scene}

theorem startsUnverified_iff {k : Nat} : p.startsUnverified k ↔ ∃ i run d before,
    p.world.tasks[k]? = some (i, .provisioning run .start) ∧ p.world.devices[i]? = some d ∧
      d.target? run .start = some before ∧ before.configured = .wlanUnconfigured := by
  unfold startsUnverified
  split
  next i run task =>
    constructor
    · intro starts
      obtain ⟨d, here, goesBack⟩ := (Option.any_eq_true _ _).mp starts
      obtain ⟨before, target, configured⟩ := (Option.any_eq_true _ _).mp goesBack
      exact ⟨i, run, d, before, task, here, target, of_decide_eq_true configured⟩
    · rintro ⟨j, other, d, before, same, here, target, configured⟩
      cases task.symm.trans same
      simp [here, target, configured]
  next other =>
    refine ⟨by simp, ?_⟩
    rintro ⟨i, run, d, before, task, -⟩
    exact absurd task (other i run)

theorem overwrites_iff {i : Nat} {r : Server.Request} : p.overwrites i r ↔ r.writes ∧
    ∃ d st, p.world.devices[i]? = some d ∧ d.store.loaded = some st := by
  simp [overwrites, Option.any_eq_true, Option.isSome_iff_exists]

end Scene

/-! Changes -/

theorem Update.configured_apply (u : Update) (c : SystemConfig) :
    (u.apply c).1.configured = c.configured := by
  have ssid (c : SystemConfig) (s : String) : (putSsid c s).configured = c.configured := rfl
  have password (c : SystemConfig) (s : String) : (putPassword c s).configured = c.configured :=
    rfl
  simp [apply, edit, Edited.setText, Edited.field_set (·.configured), ssid, password]

theorem SystemConfig.configured_advance (c : SystemConfig) (next : ConfigState) :
    (c.advance next).configured = c.configured ∨ (c.advance next).configured = next := by
  unfold advance
  split
  · exact .inr rfl
  · exact .inl rfl

theorem Change.unpromoted {c : Change} {st : Settings} (quiet : ¬c.Promotes)
    (known : st.record.system.configured ≠ .allConfigured) :
    (c.apply st).record.system.configured ≠ .allConfigured := by
  cases c with
  | advance next =>
      rcases st.record.system.configured_advance next with same | same
      · exact fun promoted => known (same.symm.trans promoted)
      · exact fun promoted => quiet (same.symm.trans promoted)
  | addresses staticIp => cases staticIp <;> exact known
  | restore system => exact quiet
  | update u => exact absurd trivial quiet
  | updateSoftAp u =>
      simp only [apply, Settings.modifySystem, Update.configured_apply]
      exact known
  | reconfigure =>
      simp only [apply, Settings.modifySystem, SystemConfig.requestReconfiguration]
      split
      · nofun
      · exact known
  | restoreDefaults => simp [apply, ConfigRecord.restoreDefaults, SystemConfig.factory]
  | _ => exact known

/-! Requests that write settings -/

namespace Server

open Act

variable {s : Site}

theorem Request.writes_iff {r : Request} : r.writes ↔
    Resource.ofPath? r.path = some .settings ∧ r.method = .post ∧
      ∃ body u, r.buffer = .ok body ∧ parseUpdate body = .ok u := by
  simp only [writes, update?, Bool.and_eq_true, decide_eq_true_eq]
  refine and_congr_right fun _ => ?_
  split
  next posted =>
    cases whole : r.buffer with
    | error response => simp [Except.toOption, posted]
    | ok body => cases read : parseUpdate body <;> simp [Except.toOption, posted, read]
  next other => simp [other]

theorem respond_unloaded {r : Request} (writes : r.writes)
    (unloaded : s.device.store.loaded = none) : ∃ answer, respond r s = (answer, s) := by
  obtain ⟨path, posted, body, u, whole, parsed⟩ := Request.writes_iff.mp writes
  have known : (Fallible.ofExcept (parseUpdate body)).run s = (.ok u, s) := by
    rw [parsed]
    rfl
  have written : (write body).run s = (.error .storeNotInitialized, s) := by
    rw [write, Fallible.bind_apply, known]
    dsimp only
    rw [Fallible.bind_apply, settings_of_unloaded unloaded]
  have concluded : ∃ answer, conclude (write body) s = (answer, s) := by
    rw [conclude, Act.bind_apply, written]
    exact ⟨_, rfl⟩
  have answered : respond r s = conclude (write body) s := by
    simp only [respond, path, posted, answer, buffered, whole]
    rfl
  exact answered ▸ concluded

end Server

theorem Scene.step_of_unloaded {p : Scene} {i : Nat} {r : Server.Request} (writes : r.writes)
    (idle : ¬p.overwrites i r) : p.step (.request i r) = p := by
  cases here : p.world.devices[i]? with
  | none => simp [step, World.run, World.on, here]
  | some d =>
      have unloaded : d.store.loaded = none := by
        simpa [overwrites, writes, here] using idle
      obtain ⟨answer, same⟩ := Server.respond_unloaded (s := ⟨i, p.world.board, d, []⟩) writes
        unloaded
      have ran : (discard (Server.respond r) : Act Unit) ⟨i, p.world.board, d, []⟩ =
          ((), ⟨i, p.world.board, d, []⟩) := by
        change ((), (Server.respond r _).2) = _
        rw [same]
      simp [step, World.run, World.on_board here ran]

/-! Careful events -/

namespace Scene

/-- No record counts as fully configured, no run ended with a roll back, and every run that waits
started from a device without a network. -/
def unpromotedLaw : Law :=
  .ofRecords (fun r => r.system.configured ≠ .allConfigured) (· ≠ .rolledBack)
    fun before => before.configured = .unconfigured

theorem loadable_unpromoted :
    Law.Loadable fun r => r.system.configured ≠ .allConfigured where
  factory _ _ _ := by simp [ConfigRecord.factory, SystemConfig.factory]
  resizeApp _ _ known := known

theorem stationUp_of_promotes {n : Notification} {c : Change} (brings : n.Brings c)
    (promotes : c.Promotes) : n = .wifiStatusChanged .stationUp := by
  cases brings with
  | stationUp => rfl
  | _ => exact promotes.elim

theorem unpromoted_allows {p : Scene} {e : Event} {d : Deed} (careful : p.careful e)
    (quiet : ∀ i r, e = .request i r → ¬r.writes) (may : Law.May p e d) :
    unpromotedLaw.Allows d := by
  have changes {c : Change} (quiet : ¬c.Promotes) : unpromotedLaw.Allows (.change c) :=
    Law.ofRecords_allows_change fun _ => Change.unpromoted quiet
  cases may.occasion with
  | commit => exact (Law.ofRecords_stands loadable_unpromoted).commit
  | notification same brings =>
      refine changes fun promotes => ?_
      rw [same, stationUp_of_promotes brings promotes] at careful
      cases careful
  | written same path read =>
      refine absurd ?_ (quiet _ _ same)
      simp [Server.Request.writes, path, Option.isSome_of_mem read]
  | softApJoin due params => exact Law.allows_spawn (Law.onTask_of_forgets rfl)
  | received _ receives => exact Law.ofRecords_allows_receive receives
  | softApWritten u => exact changes id
  | reconfigure => exact changes id
  | restoreDefaults => exact changes id
  | installed _ _ _ => exact changes id

theorem unpromoted_allowsTarget {target : Option SystemConfig}
    (fresh : ∀ before ∈ target, before.configured = .unconfigured) :
    unpromotedLaw.AllowsTarget target := by
  refine Law.ofRecords_allowsTarget loadable_unpromoted fresh (fun run c may st => ?_) ?_
  · refine Change.unpromoted fun promotes => ?_
    cases may with
    | clearBypass => exact promotes
    | advance => cases promotes
    | @restore before here =>
        have unconfigured := fresh before here
        simp [Change.Promotes, SystemConfig.rolledBack, unconfigured] at promotes
  · rintro told outcome within rfl
    obtain ⟨before, here, configured⟩ := within rfl
    exact configured (fresh before here)

theorem unpromoted_step {p : Scene} {e : Event} (law : unpromotedLaw.OnWorld p.world)
    (permits : p.permits e) (careful : p.careful e) : unpromotedLaw.OnWorld (p.step e).world := by
  by_cases idle : ∃ i r, e = .request i r ∧ r.writes ∧ ¬p.overwrites i r
  · obtain ⟨i, r, rfl, writes, idle⟩ := idle
    rwa [step_of_unloaded writes idle]
  have quiet : ∀ i r, e = .request i r → ¬r.writes := by
    rintro i r rfl writes
    refine idle ⟨i, r, rfl, writes, ?_⟩
    simpa using (Bool.and_eq_true_iff.mp careful).2
  refine law.step (Law.ofRecords_stands loadable_unpromoted) permits
    (fun d may => unpromoted_allows careful quiet may) fun d run wait steps =>
      unpromoted_allowsTarget ?_
  refine law.remembers steps fun fresh before target => ?_
  obtain ⟨k, i, rfl, task, here⟩ := steps
  obtain ⟨st, loaded, -, -, rfl⟩ := Device.target?_start.mp target
  have known := (law.devices d (List.mem_of_getElem? here)).store st loaded
  cases configured : st.system.configured with
  | unconfigured => exact configured
  | wlanUnconfigured =>
      have starts : p.startsUnverified k := startsUnverified_iff.mpr
        ⟨i, run, d, _, fresh ▸ task, here, target, configured⟩
      simp [Scene.careful, starts] at careful
  | allConfigured => exact absurd configured known

theorem unpromoted_reachable {layout : Layout} {capacity : Nat} {hardware : Hardware} {p : Scene}
    (reachable : Reachable careful (erased layout capacity hardware) p) :
    unpromotedLaw.OnWorld p.world := by
  refine reachable.invariant ?_ fun q e _ permits careful law => unpromoted_step law permits careful
  exact Law.ofRecords_erased

theorem not_promoted_of_law {p : Scene} (law : unpromotedLaw.OnWorld p.world) : ¬p.Promoted := by
  rintro (⟨r, stored, promoted⟩ | ⟨d, found, ⟨st, loaded, promoted⟩ | ended⟩)
  · exact law.flash r stored (by simpa [ConfigRecord.isPromoted] using promoted)
  · have known := (law.devices d found).store st loaded
    exact known (by simpa [ConfigRecord.isPromoted] using promoted)
  · exact (law.devices d found).outcomes _ ended rfl

end Scene

/-! Carelessness -/

namespace Server

open Act

variable {s : Site} {st : Settings}

theorem promoted_write {u : Update} {body : Bytes} (loaded : s.device.store.loaded = some st)
    (parsed : parseUpdate body = .ok u) : ((write body).run s).2.device.Promoted := by
  have known : (Fallible.ofExcept (parseUpdate body)).run s = (.ok u, s) := by
    rw [parsed]
    rfl
  let system := (u.apply st.system).1.advance .allConfigured
  let changed := (setSettings (st.modifySystem fun _ => system) s).2
  have counts : system.configured = .allConfigured := by
    simp only [system, SystemConfig.advance]
    cases (u.apply st.system).1.configured <;> rfl
  have kept := (runs_written (s := changed) (u.apply st.system).2).store_eq
  rw [write, Fallible.bind_apply, known]
  dsimp only
  rw [Fallible.bind_apply, settings_of_loaded loaded]
  dsimp only
  rw [Fallible.bind_lift, Act.bind_apply]
  refine ⟨st.modifySystem fun _ => system, congrArg Store.loaded kept, ?_⟩
  simp [Settings.modifySystem, ConfigRecord.isPromoted, counts]

theorem promoted_respond {r : Request} (writes : r.writes)
    (loaded : s.device.store.loaded = some st) :
    (discard (respond r) s).2.device.Promoted := by
  obtain ⟨path, posted, body, u, whole, parsed⟩ := Request.writes_iff.mp writes
  have written : (conclude (write body) s).2.device.Promoted := by
    have promoted := promoted_write loaded parsed
    rw [conclude, Act.bind_apply]
    cases ((write body).run s).1 with
    | ok _ => exact promoted
    | error e => exact promoted
  have answered : (respond r s).2 = (conclude (write body) s).2 := by
    simp only [respond, path, posted, answer, buffered, whole]
    rfl
  exact answered ▸ written

end Server

namespace Scene

theorem permits_resume {p : Scene} {k i : Nat} {t : Task} {d : Device}
    (task : p.world.tasks[k]? = some (i, t)) (here : p.world.devices[i]? = some d)
    (ready : t.isReady d p.world.board.now) : p.permits (.resume k) := by
  simp [permits, task, World.isReady, here, ready]

/-- A run that starts so can promote its record without a network: the hardware only has to refuse
what the run asks of it. -/
theorem promoted_of_startsUnverified {p : Scene} {k : Nat} (starts : p.startsUnverified k) :
    ∃ q, Reachable unjoined p q ∧ q.Promoted := by
  obtain ⟨i, run, d, before, task, system, target, configured⟩ := startsUnverified_iff.mp starts
  obtain ⟨st, loaded, bypass, going, rfl⟩ := Device.target?_start.mp target
  have configured : st.system.configured = .wlanUnconfigured := configured
  have known : st.system.configured ≠ .unconfigured := by simp [configured]
  let refusing : Hardware :=
    { p.world.board.hardware with answer := fun _ => .error .storeNotInitialized }
  let first := p.step (.hardware refusing)
  let second := first.step (.resume k)
  let s : Site := ⟨i, first.world.board, d, []⟩
  have refuses : s.board.hardware.Refuses := fun _ => ⟨_, rfl⟩
  obtain ⟨device, board, waits⟩ := World.resume_run (w := first.world) task system
  have ready : Task.isReady (.provisioning run .start) d first.world.board.now := by
    simp [Task.isReady]
  have toFirst : Reachable unjoined p first := .step .start rfl rfl
  have toSecond : Reachable unjoined p second :=
    .step toFirst (permits_resume task system ready) rfl
  rcases Provisioning.resume_refused (s := s) refuses loaded known bypass going with
    promoted | ⟨number, before, next, known, failed⟩
  · exact ⟨second, toSecond, .inr ⟨_, List.mem_of_getElem? device, .inl promoted⟩⟩
  · -- The discovery was refused, which the run learns when it goes on.
    let t := (Provisioning.resume run .start s).2
    have task := waits _ next
    obtain ⟨last, -, -⟩ := World.resume_run (w := second.world) task device
    have hardware : second.world.board = t.board := board
    have failed : Site.Failed ⟨i, second.world.board, t.device, []⟩ run := by
      rw [hardware]
      exact { failed with }
    have ready : Task.isReady (.provisioning run (.discovering number before)) t.device
        second.world.board.now := by
      simp [Task.isReady, failed.permit]
    have promoted : (Provisioning.proceed run (.discovering number before)
        ⟨i, second.world.board, t.device, []⟩).2.device.Promoted :=
      Provisioning.promoted_afterDiscovery failed known
    have promoted := Provisioning.promoted_resume promoted
    exact ⟨second.step (.resume k), .step toSecond (permits_resume task device ready) rfl,
      .inr ⟨_, List.mem_of_getElem? last, .inl promoted⟩⟩

/-- Settings that are written count as those of a network at once, whatever the answer will be. -/
theorem promoted_of_overwrites {p : Scene} {i : Nat} {r : Server.Request}
    (overwrites : p.overwrites i r) : (p.step (.request i r)).Promoted := by
  obtain ⟨writes, d, st, here, loaded⟩ := overwrites_iff.mp overwrites
  have promoted := Server.promoted_respond (s := ⟨i, p.world.board, d, []⟩) writes loaded
  have after : (p.step (.request i r)).world.devices[i]? =
      some (discard (Server.respond r) ⟨i, p.world.board, d, []⟩).2.device :=
    World.devices_run _ here
  exact .inr ⟨_, List.mem_of_getElem? after, .inl promoted⟩

/-- No record is promoted as long as all events are careful, and every other event can promote one:
a run can start from settings that were received and never verified, or settings are written. -/
theorem promoted_only_carelessly {layout : Layout} {capacity : Nat} {hardware : Hardware}
    {p : Scene} :
    (Reachable careful (erased layout capacity hardware) p → ¬p.Promoted) ∧
      ∀ e, p.permits e → p.unjoined e →
        p.careful e ∨ ∃ q, Reachable unjoined p q ∧ q.Promoted := by
  refine ⟨fun reachable => not_promoted_of_law (unpromoted_reachable reachable), ?_⟩
  intro e permits quiet
  cases e with
  | resume k =>
      cases starts : p.startsUnverified k with
      | true => exact .inr (promoted_of_startsUnverified starts)
      | false => exact .inl (by simp [careful, starts])
  | request i r =>
      cases overwrites : p.overwrites i r with
      | true => exact .inr ⟨_, .step .start permits quiet, promoted_of_overwrites overwrites⟩
      | false => exact .inl (by simp [careful, overwrites, quiet])
  | _ => exact .inl quiet

/-- The device is shut down while it waits, and started again. -/
def brokenJoin : List Event :=
  joining ++ [.stop 0, .resume 1, .resume 0, .boot sampleOptions DeviceInfo.product false]

def afterBrokenJoin : List Event :=
  brokenJoin ++ [.resume 2, .notify (.easyLinkCompleted none), .resume 2]

def emptyUpdate : Server.Request := ⟨.post, "/config-write", none, none, [[0x7b, 0x7d]], none⟩

set_option maxRecDepth 4000 in
theorem promoted_only_carelessly_joining :
    (∃ p ∈ sample.run careful failedJoin, ¬p.Promoted) ∧
      ∃ p ∈ sample.run careful (brokenJoin ++ [.refuse true]),
        ∀ e ∈ [Event.resume 2, Event.request 1 emptyUpdate],
          ¬p.careful e ∧ ∃ q, Reachable unjoined p q ∧ q.Promoted := by
  constructor
  · have ran : (sample.run careful failedJoin).isSome := by decide +kernel
    obtain ⟨p, ran⟩ := Option.isSome_iff_exists.mp ran
    exact ⟨p, ran, promoted_only_carelessly.1 (reachable_run ran)⟩
  · have ran : (sample.run careful (brokenJoin ++ [.refuse true])).any fun p =>
        [Event.resume 2, Event.request 1 emptyUpdate].all fun e =>
          p.permits e && p.unjoined e && !p.careful e := by
      decide +kernel
    obtain ⟨p, ran, all⟩ := (Option.any_eq_true _ _).mp ran
    refine ⟨p, ran, fun e listed => ?_⟩
    have known := List.all_eq_true.mp all e listed
    simp only [Bool.and_eq_true, Bool.not_eq_true'] at known
    obtain ⟨⟨permits, quiet⟩, careless⟩ := known
    have cautious : ¬p.careful e := by simp [careless]
    obtain ⟨-, promotes⟩ := @promoted_only_carelessly sampleLayout 8 sampleHardware p
    exact ⟨cautious, (promotes e permits quiet).resolve_left cautious⟩

set_option maxRecDepth 4000 in
/-- Credentials whose network never answered count as those of a network after a second start. -/
theorem afterBrokenJoin_promotes : ¬∀ p, Reachable unjoined sample p → ¬p.Promoted := by
  intro never
  have ran : (sample.run unjoined afterBrokenJoin).any fun p => decide p.Promoted := by
    decide +kernel
  obtain ⟨p, ran, promoted⟩ := (Option.any_eq_true _ _).mp ran
  exact never p (reachable_run ran) (of_decide_eq_true promoted)

end Scene
end ConnectedDevice
