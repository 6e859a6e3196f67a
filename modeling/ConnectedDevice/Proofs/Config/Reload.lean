import ConnectedDevice.Proofs.World.Application
import ConnectedDevice.Proofs.World.Systems

/-!
What was committed is what is loaded next. Every record in memory is of the version of its store,
and holds as many bytes of the application as the store was loaded with, whatever happened to it
since; so a fresh store finds a committed record again and does not take it for one of another
version.
-/

namespace ConnectedDevice

/-! Versions -/

theorem SystemConfig.seed_advance (c : SystemConfig) (next : ConfigState) :
    (c.advance next).seed = c.seed := by
  unfold advance
  split <;> rfl

theorem SystemConfig.seed_rolledBack (before : SystemConfig) :
    before.rolledBack.seed = before.seed := by
  unfold rolledBack
  split <;> rfl

theorem Update.seed_apply (u : Update) (c : SystemConfig) : (u.apply c).1.seed = c.seed := by
  have ssid (c : SystemConfig) (s : String) : (putSsid c s).seed = c.seed := rfl
  have password (c : SystemConfig) (s : String) : (putPassword c s).seed = c.seed := rfl
  simp [apply, edit, Edited.setText, Edited.field_set (·.seed), ssid, password]

/-- A roll back alone can bring settings of another version. -/
theorem Change.seed_apply {c : Change} (st : Settings)
    (restored : ∀ old, c = .restore old → old.seed = st.record.system.seed) :
    (c.apply st).record.system.seed = st.record.system.seed := by
  cases c with
  | addresses staticIp => cases staticIp <;> rfl
  | advance next => exact st.record.system.seed_advance next
  | restore old => exact restored old rfl
  | update u => exact (SystemConfig.seed_advance _ _).trans (u.seed_apply _)
  | updateSoftAp u => exact u.seed_apply _
  | reconfigure =>
      simp only [apply, Settings.modifySystem, SystemConfig.requestReconfiguration]
      split <;> rfl
  | _ => rfl

theorem Change.length_appConfig (c : Change) (st : Settings) :
    (c.apply st).record.appConfig.length = st.record.appConfig.length := by
  cases c with
  | restoreDefaults => exact List.length_replicate
  | _ => rfl

namespace Law

/-- All settings are of one version. -/
def ofVersion (seed : UInt32) : Law where
  flash _ := True
  store s := s.seed = seed ∧ ∀ st ∈ s.loaded, st.record.system.seed = seed
  outcome _ := True
  before c := c.seed = seed

variable {seed : UInt32}

theorem ofVersion_allows {d : Deed}
    (restored : ∀ old, d = .change (.restore old) → old.seed = seed)
    (forgets : ∀ t, d = .spawn t → t.before? = none) : (ofVersion seed).Allows d := by
  cases d with
  | change c =>
      refine allows_change fun s ⟨version, known⟩ => ⟨version, fun st loaded => ?_⟩
      obtain ⟨old, was, rfl⟩ := Option.map_eq_some_iff.mp loaded
      have before := known old was
      exact (c.seed_apply old fun x same => before ▸ restored x (same ▸ rfl)).trans before
  | load =>
      refine allows_load fun s f n s' ⟨version, _⟩ _ read => ?_
      obtain ⟨image, -, rfl⟩ := Store.init_eq_ok read
      refine ⟨version, fun st loaded => ?_⟩
      rw [← Option.some.inj loaded]
      exact (s.seed_recordOf image n).trans version
  | commit => exact allows_commit fun _ _ _ _ => trivial
  | erase | write offset data =>
      intro s law
      simp only [Deed.perform, Act.onFlash_run]
      split
      · exact ⟨trivial, law.device, law.spawned⟩
      · exact law
  | spawn t => exact allows_spawn (onTask_of_forgets (forgets t rfl))
  | enroll subscriptions => exact allows_enroll
  | session run f => exact allows_session
  | close run outcome => exact allows_close trivial

theorem ofVersion_stands : (ofVersion DeviceInfo.configSeed).Stands where
  commit := ofVersion_allows (by simp) (by simp)
  load := ofVersion_allows (by simp) (by simp)
  observe status := ofVersion_allows (by simp) (by simp)
  refusing _ _ _ := trivial
  fresh := by
    refine ⟨rfl, fun st loaded => ?_⟩
    cases loaded

theorem ofVersion_step {p : Scene} {e : Event}
    (law : (ofVersion DeviceInfo.configSeed).OnWorld p.world) (permits : p.permits e) :
    (ofVersion DeviceInfo.configSeed).OnWorld (p.step e).world := by
  refine law.step ofVersion_stands permits (fun d may => ofVersion_allows ?_ ?_)
    fun d run wait steps => ?_
  · rintro old rfl
    cases may.occasion with
    | notification _ brings => cases brings
    | received _ receives => cases receives
  · rintro t rfl
    cases may.occasion with
    | softApJoin due params => rfl
    | received _ receives => cases receives
  · have remembered : ∀ before ∈ d.target? run wait, before.seed = DeviceInfo.configSeed := by
      refine law.remembers steps fun _ before target => ?_
      obtain ⟨k, i, -, -, here⟩ := steps
      obtain ⟨st, loaded, -, -, rfl⟩ := Device.target?_start.mp target
      exact (law.devices d (List.mem_of_getElem? here)).store.2 st loaded
    refine ⟨remembered, fun run deed may => ofVersion_allows ?_ ?_⟩
    · rintro old rfl
      cases may with
      | proceed may =>
          cases may with
          | restore here => exact (SystemConfig.seed_rolledBack _).trans (remembered _ here)
    · rintro t rfl
      cases may with
      | proceed may => cases may
      | linger due => rfl

end Law

/-! Sizes -/

/-- What is loaded holds as many bytes of the application as the system was started with. -/
def Device.Sized (d : Device) : Prop :=
  ∀ st ∈ d.store.loaded, st.record.appConfig.length = d.options.appDataSize

theorem Device.sized_perform (deed : Deed) (s : Site) (sized : s.device.Sized) :
    (deed.perform s).device.Sized := by
  cases deed with
  | change c =>
      intro st loaded
      obtain ⟨old, was, rfl⟩ := Option.map_eq_some_iff.mp loaded
      exact (c.length_appConfig old).trans (sized old was)
  | load =>
      simp only [Deed.perform, Device.load_run]
      split
      next store read =>
        obtain ⟨image, -, rfl⟩ := Store.init_eq_ok read
        intro st loaded
        rw [← Option.some.inj loaded]
        exact Store.length_recordOf _ image _
      next => exact sized
  | erase | write offset data =>
      simp only [Deed.perform, Act.onFlash_run]
      split <;> exact sized
  | enroll subscriptions =>
      simp only [Deed.perform]
      split <;> exact sized
  | _ => exact sized

namespace Scene

variable {p q : Scene} {edits : Edit → Prop}

theorem sized_step {e : Event} (permits : p.permits e) (known : ∀ d ∈ p.world.devices, d.Sized) :
    ∀ d ∈ (p.step e).world.devices, d.Sized := by
  refine devices_step (fun d later same sized => ?_) Device.sized_perform
    (fun options info hooked st loaded => ?_) permits known
  · rw [Device.Sized, same.store, same.options]
    exact sized
  · cases loaded

theorem sized_reached (keeps : ∀ x, edits x → x.KeepsShape) (reached : Reached always edits p q)
    (known : ∀ d ∈ p.world.devices, d.Sized) : ∀ d ∈ q.world.devices, d.Sized := by
  induction reached with
  | start => exact known
  | step _ permits _ ih => exact sized_step permits ih
  | @edit _ x i _ allowed ih =>
      intro d found
      obtain ⟨old, there, rfl | rfl⟩ := mem_edit found
      · exact ih d there
      · intro st loaded
        obtain ⟨was, before, rfl⟩ := Option.map_eq_some_iff.mp loaded
        exact (keeps x allowed was).2.trans (ih old there was before)

theorem version_reached {b : Board} (keeps : ∀ x, edits x → x.KeepsShape)
    (reached : Reached always edits (onBoard b) q) :
    (Law.ofVersion DeviceInfo.configSeed).OnWorld q.world := by
  have start : (Law.ofVersion DeviceInfo.configSeed).OnWorld (onBoard b).world :=
    ⟨trivial, by simp [onBoard, World.make], by simp [onBoard, World.make]⟩
  refine start.reached reached (fun _ _ permits _ law => Law.ofVersion_step law permits) ?_
  rintro x allowed s ⟨version, known⟩
  refine ⟨version, fun st loaded => ?_⟩
  obtain ⟨old, was, rfl⟩ := Option.map_eq_some_iff.mp loaded
  exact (keeps x allowed old).1.trans (known old was)

end Scene

/-! Stores -/

namespace Store

/-- A store by itself, that was loaded with a number of bytes for the application. -/
inductive Used (name : String) (seed : UInt32) (edits : Edit → Prop) : Store → Nat → Prop
  | init {s : Store} {f : Nor} {n : Nat} :
      (make name seed).init f n = .ok s → Used name seed edits s n
  | again {s s' : Store} {f : Nor} {m n : Nat} :
      Used name seed edits s m → s.init f n = .ok s' → Used name seed edits s' n
  | edit {s : Store} {x : Edit} {n : Nat} :
      Used name seed edits s n → edits x → Used name seed edits (s.edit x) n

/-- What is loaded is of the version of the store and of the given size, and once it is committed a
fresh store of that version loads it again, with the size that it asks for. -/
structure Faithful (s : Store) (seed : UInt32) (n : Nat) (st : Settings) : Prop where
  version : st.system.seed = seed
  size : st.record.appConfig.length = n
  reload : ∀ f g, s.commit f = (.ok (), g) → ∀ name m, (make name seed).init g m =
    .ok ⟨name, seed, some ⟨st.record.resizeApp m, .empty⟩⟩
  same : st.record.resizeApp n = st.record

variable {s : Store} {st : Settings} {name : String} {seed : UInt32} {n : Nat}

theorem faithful (loaded : s.loaded = some st) (version : st.system.seed = seed)
    (size : st.record.appConfig.length = n) : s.Faithful seed n st where
  version := version
  size := size
  reload f g committed name m := by
    have wrote : st.commit f = (.ok (), g) := by
      rw [← committed, commit, lock, loaded]
    exact (make name seed).init_of_commit wrote version.symm
  same := size ▸ st.record.resizeApp_length

/-- The size and the version of what is loaded into a store by itself. -/
theorem Used.shape {edits : Edit → Prop} (keeps : ∀ x, edits x → x.KeepsShape)
    (used : Used name seed edits s n) : s.seed = seed ∧ ∀ st ∈ s.loaded,
      st.system.seed = seed ∧ st.record.appConfig.length = n := by
  have read {old s : Store} {f : Nor} {n : Nat} (version : old.seed = seed)
      (loads : old.init f n = .ok s) : s.seed = seed ∧ ∀ st ∈ s.loaded,
        st.system.seed = seed ∧ st.record.appConfig.length = n := by
    obtain ⟨image, -, rfl⟩ := init_eq_ok loads
    refine ⟨version, fun st loaded => ?_⟩
    rw [← Option.some.inj loaded]
    exact ⟨(old.seed_recordOf image n).trans version, old.length_recordOf image n⟩
  induction used with
  | init loads => exact read rfl loads
  | again _ loads ih => exact read ih.1 loads
  | @edit s x n _ allowed ih =>
      refine ⟨ih.1, fun st loaded => ?_⟩
      obtain ⟨old, was, rfl⟩ := Option.map_eq_some_iff.mp loaded
      obtain ⟨version, size⟩ := ih.2 old was
      obtain ⟨sameVersion, sameSize⟩ := keeps x allowed old
      exact ⟨sameVersion.trans version, sameSize.trans size⟩

end Store

/-- What was committed is what is loaded next, from any flash, with all that can happen to a system
or to a store by itself, as long as the application keeps the version and the size of its data. -/
theorem committed_is_loaded {edits : Edit → Prop} (keeps : ∀ x, edits x → x.KeepsShape) :
    (∀ b p, Scene.Reached Scene.always edits (Scene.onBoard b) p →
      ∀ d ∈ p.world.devices, ∀ st ∈ d.store.loaded,
        d.store.Faithful DeviceInfo.configSeed d.options.appDataSize st) ∧
    ∀ name seed s n, Store.Used name seed edits s n →
      ∀ st ∈ s.loaded, s.Faithful seed n st := by
  constructor
  · intro b p reached d found st loaded
    have law := Scene.version_reached keeps reached
    have sized := Scene.sized_reached keeps reached (by simp [Scene.onBoard, World.make])
    exact Store.faithful loaded ((law.devices d found).store.2 st loaded) (sized d found st loaded)
  · intro name seed s n used st loaded
    obtain ⟨version, size⟩ := (used.shape keeps).2 st loaded
    exact Store.faithful loaded version size

namespace Scene

/-- A device with data of its application, which provisioning left with the settings from before. -/
def withData : List Event :=
  [.boot { sampleOptions with appDataSize := 3 } DeviceInfo.product false, .resume 1,
    .notify (.easyLinkCompleted (some ⟨"Home", "secret"⟩)),
    .notify (.easyLinkExtraData [0x23, 1, 0, 0, 0]), .resume 1, .pass 20000, .resume 1,
    .notify (.easyLinkCompleted none), .resume 1]

def lastByte : Edit := .write fun r => { r with appConfig := r.appConfig.set 2 0xFF }

theorem lastByte_keepsShape : lastByte.KeepsShape := fun s =>
  ⟨rfl, by simp [lastByte, Edit.apply]⟩

def commits (d : Device) (f : Nor) : Bool := (d.store.commit f).1.toOption.isSome

end Scene

open Scene in
set_option maxRecDepth 4000 in
/-- The device was renamed and the last byte of the application set; a start with more bytes finds
both. -/
theorem committed_is_loaded_lastByte :
    (∃ p ∈ sample.run always withData,
      ∃ d ∈ ((p.edit 0 (.rename "Kitchen")).edit 0 lastByte).world.devices,
        ∃ st ∈ d.store.loaded, ∃ g, d.store.commit p.world.board.flash = (.ok (), g) ∧
          st.system.name = "Kitchen" ∧ (st.record.resizeApp 4).appConfig = [0, 0, 0xFF, 0] ∧
            (Store.make "Device" 1).init g 4 =
              .ok ⟨"Device", 1, some ⟨st.record.resizeApp 4, .empty⟩⟩) ∧
      ∃ s, (Store.make "Device" 7).init (.blank sampleLayout) 3 = .ok s ∧
        ∀ st ∈ s.loaded, s.Faithful 7 3 st := by
  have keeps : ∀ x, x = lastByte ∨ x.IsSetter → x.KeepsShape := by
    rintro x (rfl | setter)
    · exact lastByte_keepsShape
    · exact setter.keepsShape
  obtain ⟨systems, stores⟩ := committed_is_loaded keeps
  constructor
  · have ran : (sample.run always withData).any fun p =>
        (((p.edit 0 (.rename "Kitchen")).edit 0 lastByte).world.devices[0]?).any fun d =>
          commits d p.world.board.flash && d.store.loaded.any fun st =>
            st.system.name = "Kitchen" && st.record.appConfig = [0, 0, 0xFF] := by
      decide +kernel
    obtain ⟨p, ran, known⟩ := (Option.any_eq_true _ _).mp ran
    obtain ⟨d, here, known⟩ := (Option.any_eq_true _ _).mp known
    obtain ⟨committed, known⟩ := Bool.and_eq_true_iff.mp known
    obtain ⟨st, loaded, known⟩ := (Option.any_eq_true _ _).mp known
    obtain ⟨name, data⟩ := Bool.and_eq_true_iff.mp known
    have data : st.record.appConfig = [0, 0, 0xFF] := of_decide_eq_true data
    have found := List.mem_of_getElem? here
    have reached : Reached always (fun x => x = lastByte ∨ x.IsSetter) sample
        ((p.edit 0 (.rename "Kitchen")).edit 0 lastByte) :=
      .edit 0 (.edit 0 (reachable_run ran).reached (.inr trivial)) (.inl rfl)
    have faithful := systems _ _ reached d found st loaded
    cases outcome : d.store.commit p.world.board.flash with
    | mk answer g =>
        cases answer with
        | error e => simp [commits, outcome, Except.toOption] at committed
        | ok _ =>
            refine ⟨p, ran, d, found, st, loaded, g, outcome, of_decide_eq_true name, ?_, ?_⟩
            · simp [ConfigRecord.resizeApp, data]
            · exact faithful.reload _ _ outcome "Device" 4
  · have loads : ((Store.make "Device" 7).init (.blank sampleLayout) 3).toOption.isSome := by
      decide +kernel
    cases read : (Store.make "Device" 7).init (.blank sampleLayout) 3 with
    | error e => simp [read, Except.toOption] at loads
    | ok s => exact ⟨s, rfl, stores "Device" 7 s 3 (.init read)⟩

end ConnectedDevice
