import ConnectedDevice.Proofs.Text.Limited
import ConnectedDevice.Proofs.World.Application
import ConnectedDevice.Proofs.World.Record
import ConnectedDevice.Proofs.World.Systems

/-!
The limits of the text fields. Whatever a peer, the driver or an application gives to a setter is
cut to the limit of its field. What a join learned of its access point is stored as it is, so that
the limits hold until a system that hears of access points hears of one that is beyond them.
-/

namespace ConnectedDevice

/-- Every text is within the limit of its field. -/
structure SystemConfig.Fits (c : SystemConfig) : Prop where
  name : c.name.utf8ByteSize ≤ fieldLimits.name
  ssid : c.ssid.utf8ByteSize ≤ fieldLimits.ssid
  userKey : c.userKey.utf8ByteSize ≤ fieldLimits.key
  key : c.key.utf8ByteSize ≤ fieldLimits.key
  localIp : c.localIp.utf8ByteSize ≤ fieldLimits.address
  netmask : c.netmask.utf8ByteSize ≤ fieldLimits.address
  gateway : c.gateway.utf8ByteSize ≤ fieldLimits.address
  dnsServer : c.dnsServer.utf8ByteSize ≤ fieldLimits.address

structure AccessPoint.Fits (ap : AccessPoint) : Prop where
  ssid : ap.ssid.utf8ByteSize ≤ fieldLimits.ssid
  key : ap.key.utf8ByteSize ≤ fieldLimits.key

theorem SystemConfig.fits_iff (c : SystemConfig) : c.Fits ↔
    (c.name.utf8ByteSize ≤ fieldLimits.name ∧ c.ssid.utf8ByteSize ≤ fieldLimits.ssid) ∧
      (c.userKey.utf8ByteSize ≤ fieldLimits.key ∧ c.key.utf8ByteSize ≤ fieldLimits.key) ∧
      (c.localIp.utf8ByteSize ≤ fieldLimits.address ∧
        c.netmask.utf8ByteSize ≤ fieldLimits.address) ∧
      (c.gateway.utf8ByteSize ≤ fieldLimits.address ∧
        c.dnsServer.utf8ByteSize ≤ fieldLimits.address) :=
  ⟨fun ⟨name, ssid, userKey, key, localIp, netmask, gateway, dnsServer⟩ =>
      ⟨⟨name, ssid⟩, ⟨userKey, key⟩, ⟨localIp, netmask⟩, gateway, dnsServer⟩,
    fun ⟨⟨name, ssid⟩, ⟨userKey, key⟩, ⟨localIp, netmask⟩, gateway, dnsServer⟩ =>
      ⟨name, ssid, userKey, key, localIp, netmask, gateway, dnsServer⟩⟩

instance (c : SystemConfig) : Decidable c.Fits := decidable_of_iff' _ c.fits_iff

theorem AccessPoint.fits_iff (ap : AccessPoint) : ap.Fits ↔
    ap.ssid.utf8ByteSize ≤ fieldLimits.ssid ∧ ap.key.utf8ByteSize ≤ fieldLimits.key :=
  ⟨fun fits => ⟨fits.ssid, fits.key⟩, fun ⟨ssid, key⟩ => ⟨ssid, key⟩⟩

instance (ap : AccessPoint) : Decidable ap.Fits := decidable_of_iff' _ ap.fits_iff

/-! Setters -/

namespace SystemConfig

variable {c : SystemConfig}

theorem fits_factory (name : String) (seed : UInt32) : (factory name seed).Fits where
  name := Text.utf8ByteSize_limited _ name
  ssid := Nat.zero_le _
  userKey := Nat.zero_le _
  key := Nat.zero_le _
  localIp := Nat.zero_le _
  netmask := Nat.zero_le _
  gateway := Nat.zero_le _
  dnsServer := Nat.zero_le _

theorem Fits.setCredentials (fits : c.Fits) (ssid key : String) :
    (c.setCredentials ssid key).Fits :=
  { fits with
    ssid := Text.utf8ByteSize_limited _ ssid
    userKey := Text.utf8ByteSize_limited _ key
    key := Text.utf8ByteSize_limited _ key }

theorem Fits.setStaticIp (fits : c.Fits) (localIp netmask gateway dns : String) :
    (c.setStaticIp localIp netmask gateway dns).Fits :=
  { fits with
    localIp := Text.utf8ByteSize_limited _ localIp
    netmask := Text.utf8ByteSize_limited _ netmask
    gateway := Text.utf8ByteSize_limited _ gateway
    dnsServer := Text.utf8ByteSize_limited _ dns }

theorem Fits.setName (fits : c.Fits) (name : String) : (c.setName name).Fits :=
  { fits with name := Text.utf8ByteSize_limited _ name }

theorem Fits.advance (fits : c.Fits) (next : ConfigState) : (c.advance next).Fits := by
  unfold SystemConfig.advance
  split
  · exact { fits with }
  · exact fits

theorem Fits.requestReconfiguration (fits : c.Fits) : c.requestReconfiguration.Fits := by
  unfold SystemConfig.requestReconfiguration
  split
  · exact { fits with }
  · exact fits

theorem fits_learn {ap : AccessPoint} (fits : c.Fits) : (c.learn ap).Fits ↔ ap.Fits :=
  ⟨fun learned => ⟨learned.ssid, learned.key⟩,
    fun learned => { fits with ssid := learned.ssid, key := learned.key }⟩

end SystemConfig

/-! Updates of a peer -/

namespace Update

variable {e : Edited}

theorem Edited.fits_set {α : Type} [BEq α] {get : SystemConfig → α}
    {put : SystemConfig → α → SystemConfig} (fits : e.config.Fits)
    (keeps : ∀ c x, c.Fits → (put c x).Fits) (o : Option α) : (e.set get put o).config.Fits := by
  cases o with
  | none => exact fits
  | some x => exact keeps e.config x fits

theorem Edited.fits_setText {limit : Nat} {get : SystemConfig → String}
    {put : SystemConfig → String → SystemConfig} (fits : e.config.Fits)
    (keeps : ∀ c s, c.Fits → s.utf8ByteSize ≤ limit → (put c s).Fits) (o : Option String) :
    (e.setText limit get put o).config.Fits := by
  cases o with
  | none => exact fits
  | some s => exact keeps e.config _ fits (Text.utf8ByteSize_limited limit s)

theorem fits_apply {c : SystemConfig} (u : Update) (fits : c.Fits) : (u.apply c).1.Fits := by
  have start : (Edited.mk c false).config.Fits := fits
  refine Edited.fits_set (Edited.fits_set (Edited.fits_setText (Edited.fits_setText
    (Edited.fits_setText (Edited.fits_setText (Edited.fits_set (Edited.fits_setText
      (Edited.fits_setText (Edited.fits_setText start ?_ u.name) ?_ u.ssid) ?_ u.password)
        ?_ u.dhcp) ?_ u.ip) ?_ u.netmask) ?_ u.gateway) ?_ u.dns1) ?_ u.rfPowerSave)
          ?_ u.mcuPowerSave
  · exact fun _ _ fits short => { fits with name := short }
  · exact fun _ _ fits short => { fits with ssid := short, key := fits.userKey }
  · exact fun _ _ fits short => { fits with userKey := short, key := short }
  · exact fun _ _ fits => { fits with }
  · exact fun _ _ fits short => { fits with localIp := short }
  · exact fun _ _ fits short => { fits with netmask := short }
  · exact fun _ _ fits short => { fits with gateway := short }
  · exact fun _ _ fits short => { fits with dnsServer := short }
  · exact fun _ _ fits => { fits with }
  · exact fun _ _ fits => { fits with }

end Update

/-! Changes -/

theorem Change.fits {c : Change} {st : Settings} (known : st.record.system.Fits)
    (learned : ∀ ap, c = .learn ap → ap.Fits) (restored : ∀ old, c = .restore old → old.Fits) :
    (c.apply st).record.system.Fits := by
  cases c with
  | observe _ | install _ => exact { known with }
  | credentials c => exact known.setCredentials c.ssid c.key
  | addresses staticIp =>
      cases staticIp with
      | none => exact { known with }
      | some ip => exact known.setStaticIp ip.localIp ip.netmask ip.gateway ip.dnsServer
  | learn ap => exact (SystemConfig.fits_learn known).mpr (learned ap rfl)
  | advance next => exact known.advance next
  | clearBypass => exact { known with }
  | restore old => exact restored old rfl
  | update u => exact (u.fits_apply known).advance .allConfigured
  | updateSoftAp u =>
      have cleared : { st.record.system with bypass := .no }.Fits := { known with }
      exact u.fits_apply cleared
  | reconfigure =>
      have cleared : { st.record.system with bypass := .no }.Fits := { known with }
      exact cleared.requestReconfiguration
  | restoreDefaults => exact SystemConfig.fits_factory _ _

theorem Edit.fits {x : Edit} {st : Settings} (setter : x.IsSetter) (known : st.record.system.Fits) :
    (x.apply st).record.system.Fits := by
  cases x with
  | credentials ssid key => exact known.setCredentials ssid key
  | staticIp localIp netmask gateway dns => exact known.setStaticIp localIp netmask gateway dns
  | rename name => exact known.setName name
  | advance next => exact known.advance next
  | reconfigure => exact known.requestReconfiguration
  | restoreDefaults => exact SystemConfig.fits_factory _ _
  | observe status => exact known
  | write f => exact setter.elim

theorem SystemConfig.Fits.rolledBack {before : SystemConfig} (fits : before.Fits) :
    before.rolledBack.Fits := by
  unfold SystemConfig.rolledBack
  split
  · exact fits
  · exact { fits with }

namespace Law

/-- All settings are within the limits: those in flash, in memory, and to go back to. -/
def withinLimits : Law :=
  .ofRecords (·.system.Fits) (fun _ => True) SystemConfig.Fits

theorem loadable_fits : Loadable fun r => r.system.Fits where
  factory name seed _ := SystemConfig.fits_factory name seed
  resizeApp _ _ fits := fits

theorem withinLimits_allowsTarget {target : Option SystemConfig}
    (fits : ∀ before ∈ target, before.Fits) : withinLimits.AllowsTarget target := by
  refine ofRecords_allowsTarget loadable_fits fits (fun run c may st known => ?_)
    fun _ _ _ => trivial
  refine Change.fits known (fun ap same => ?_) fun old same => ?_
  · cases may <;> cases same
  · cases may with
    | restore here =>
        cases same
        exact (fits _ here).rolledBack
    | _ => cases same

theorem withinLimits_allows {p : Scene} {e : Event} {d : Deed} (may : May p e d)
    (narrow : ∀ ap, e = .notify (.wifiParametersChanged ap) → ap.Fits) : withinLimits.Allows d := by
  refine ofRecords_allows loadable_fits may fun c change st known => ?_
  subst change
  refine Change.fits known (fun ap same => ?_) fun old same => ?_
  · subst same
    cases may.occasion with
    | notification notified brings =>
        cases brings
        exact narrow ap notified
    | received _ receives => cases receives
  · subst same
    cases may.occasion with
    | notification _ brings => cases brings
    | received _ receives => cases receives

theorem withinLimits_step {p : Scene} {e : Event} (law : withinLimits.OnWorld p.world)
    (permits : p.permits e) (narrow : ∀ ap, e = .notify (.wifiParametersChanged ap) → ap.Fits) :
    withinLimits.OnWorld (p.step e).world := by
  refine law.step (ofRecords_stands loadable_fits) permits
    (fun d may => withinLimits_allows may narrow) fun d run wait steps =>
      withinLimits_allowsTarget (law.remembers steps fun _ before target => ?_)
  obtain ⟨k, i, -, -, here⟩ := steps
  obtain ⟨st, loaded, -, -, rfl⟩ := Device.target?_start.mp target
  have known : st.record.system.Fits :=
    (law.devices d (List.mem_of_getElem? here)).store st loaded
  exact { known with }

end Law

/-! Access points -/

def Store.Learned (ap : AccessPoint) (s : Store) : Prop :=
  ∃ st, s.loaded = some st ∧ st.system.ssid = ap.ssid ∧ st.system.key = ap.key

theorem Store.Learned.fits {ap : AccessPoint} {s : Store} (learned : s.Learned ap)
    (fits : ∀ st ∈ s.loaded, st.system.Fits) : ap.Fits := by
  obtain ⟨st, loaded, ssid, key⟩ := learned
  have known := fits st loaded
  exact ⟨ssid ▸ known.ssid, key ▸ known.key⟩

theorem Store.learned_change {ap : AccessPoint} {s : Store} {st : Settings}
    (loaded : s.loaded = some st) : (s.change (.learn ap)).Learned ap :=
  ⟨(Change.learn ap).apply st, by simp [change, loaded], rfl, rfl⟩

theorem kept_parameters {ap : AccessPoint} {inv : Store → Prop}
    (learn : ∀ s, inv s → inv (s.change (.learn ap))) :
    Kept ((Notification.wifiParametersChanged ap).May fun _ => True) fun d _ => inv d.store := by
  refine ⟨fun same known => same.store ▸ known, fun allowed leaves known => ?_⟩
  cases allowed with
  | commit => cases leaves with | nothing => exact known
  | brings brings =>
      cases brings
      cases leaves with
      | nothing => exact known
      | change _ => exact learn _ known
  | session hears _ => cases hears

namespace Device

theorem learned_onParameters {s : Site} {st : Settings} (ap : AccessPoint)
    (loaded : s.device.store.loaded = some st) : (onParameters ap s).2.device.store.Learned ap := by
  rw [onParameters, Act.device_bind]
  simp only [loaded]
  split
  · exact ⟨st.modifySystem (·.learn ap), rfl, rfl, rfl⟩
  next known =>
    have same : st.system.learn ap = st.system := by simpa using known
    refine ⟨st, loaded, ?_, ?_⟩
    · rw [← same]
      rfl
    · rw [← same]
      rfl

theorem onParameters_of_unloaded {s : Site} (ap : AccessPoint)
    (unloaded : s.device.store.loaded = none) : onParameters ap s = ((), s) := by
  rw [onParameters, Act.device_bind]
  simp only [unloaded]
  rfl

end Device

namespace World

/-- The handler is that of a system that was loaded. -/
def learns (w : World) : Handler → Bool
  | .system i => (w.devices[i]?).any (·.store.loaded.isSome)
  | _ => false

variable {w : World} (ap : AccessPoint)

/-- Without a system that learns, a notification of an access point changes nothing but the board,
and leaves the flash. -/
theorem dispatch_unlearned
    (unlearned : ∀ h ∈ w.board.center.callbacks .wifiParametersChanged, ¬w.learns h) :
    ∃ board, w.dispatch (.wifiParametersChanged ap) = { w with board } ∧
      board.flash = w.board.flash := by
  have same (i : Nat) (d : Device) (board : Board) (here : w.devices[i]? = some d)
      (act : Act Unit) (idle : act ⟨i, board, d, []⟩ = ((), ⟨i, board, d, []⟩)) :
      { w with board }.run i act = { w with board } := by
    rw [run, on_board (w := { w with board }) here idle]
    rfl
  refine calls (fun u => ∃ board, u = { w with board } ∧ board.flash = w.board.flash)
    ⟨w.board, rfl, rfl⟩ fun {u h} found known => ?_
  obtain ⟨board, rfl, flash⟩ := known
  cases h with
  | application label => exact ⟨_, rfl, flash⟩
  | system i =>
      refine ⟨board, ?_, flash⟩
      cases here : w.devices[i]? with
      | none => simp [call, run, on, here]
      | some d =>
          have unloaded : d.store.loaded = none := by
            simpa [learns, here] using unlearned _ found
          exact same i d board here _ (Device.onParameters_of_unloaded ap unloaded)
  | provisioning i run =>
      refine ⟨board, ?_, flash⟩
      cases here : w.devices[i]? with
      | none => simp [call, World.run, on, here]
      | some d => exact same i d board here _ rfl

/-- A system that learns an access point has learned it when all handlers have run. -/
theorem learned_dispatch {i : Nat} {d : Device}
    (listens : .system i ∈ w.board.center.callbacks .wifiParametersChanged)
    (here : w.devices[i]? = some d) (loaded : d.store.loaded.isSome) :
    ∃ d, (w.dispatch (.wifiParametersChanged ap)).devices[i]? = some d ∧
      d.store.Learned ap := by
  let may (_ : Nat) : Deed → Prop := (Notification.wifiParametersChanged ap).May fun _ => True
  have called (inv : Store → Prop) (learn : ∀ s, inv s → inv (s.change (.learn ap)))
      {u : World} {h : Handler} (known : u.Holds i fun d _ => inv d.store) :
      (call (.wifiParametersChanged ap) u h).Holds i fun d _ => inv d.store := by
    have path : u.Path may (call (.wifiParametersChanged ap) u h) :=
      World.Path.refl.call (fun _ _ _ => trivial) fun _ _ => id
    exact known.path (kept_parameters learn) path
  obtain ⟨front, back, split⟩ := List.append_of_mem listens
  have dispatched : w.dispatch (.wifiParametersChanged ap) =
      (Handler.system i :: back).foldl (call (.wifiParametersChanged ap))
        (front.foldl (call (.wifiParametersChanged ap)) w) := by
    rw [← List.foldl_append, ← split]
    rfl
  have before : (front.foldl (call (.wifiParametersChanged ap)) w).Holds i
      fun d _ => d.store.loaded.isSome :=
    calls (·.Holds i fun d _ => d.store.loaded.isSome) ⟨d, here, loaded⟩ fun _ =>
      called (·.loaded.isSome) fun _ known => by simpa [Store.change] using known
  obtain ⟨e, there, loaded⟩ := before
  obtain ⟨st, loaded⟩ := Option.isSome_iff_exists.mp loaded
  rw [dispatched, List.foldl_cons]
  have after : (call (.wifiParametersChanged ap)
      (front.foldl (call (.wifiParametersChanged ap)) w) (.system i)).Holds i
        fun d _ => d.store.Learned ap :=
    ⟨_, devices_run _ there, Device.learned_onParameters ap loaded⟩
  refine calls (·.Holds i fun d _ => d.store.Learned ap) after fun _ =>
    called (·.Learned ap) fun _ learned => ?_
  obtain ⟨_, loaded, -⟩ := learned
  exact Store.learned_change loaded

end World

namespace Scene

/-- All records are within the limits, in flash and in memory. -/
def KeepsLimits (p : Scene) : Prop :=
  (∀ r ∈ p.world.board.flash.stored?, r.system.Fits) ∧
    ∀ d ∈ p.world.devices, ∀ st ∈ d.store.loaded, st.system.Fits

instance (p : Scene) : Decidable p.KeepsLimits := inferInstanceAs (Decidable (_ ∧ _))

/-- The event brings an access point beyond the limits to a system that was loaded. -/
def learnsBeyond (p : Scene) : Event → Bool
  | .notify (.wifiParametersChanged ap) =>
    !decide ap.Fits &&
      (p.world.board.center.callbacks .wifiParametersChanged).any p.world.learns
  | _ => false

def withinLimits (p : Scene) (e : Event) : Bool := !p.learnsBeyond e

variable {p : Scene} {e : Event}

theorem withinLimits_step (law : Law.withinLimits.OnWorld p.world) (permits : p.permits e)
    (within : p.withinLimits e) : Law.withinLimits.OnWorld (p.step e).world := by
  by_cases narrow : ∀ ap, e = .notify (.wifiParametersChanged ap) → ap.Fits
  · exact Law.withinLimits_step law permits narrow
  · obtain ⟨ap, rfl, beyond⟩ : ∃ ap, e = .notify (.wifiParametersChanged ap) ∧ ¬ap.Fits := by
      simpa using narrow
    have unlearned : ∀ h ∈ p.world.board.center.callbacks .wifiParametersChanged,
        ¬p.world.learns h := by
      simpa [withinLimits, learnsBeyond, beyond] using within
    obtain ⟨board, same, flash⟩ := World.dispatch_unlearned ap unlearned
    rw [step, same]
    exact ⟨flash ▸ law.flash, law.devices, law.tasks⟩

theorem not_fits_of_learnsBeyond (beyond : p.learnsBeyond e) : ¬(p.step e).KeepsLimits := by
  rintro ⟨-, fits⟩
  cases e with
  | notify n =>
      cases n with
      | wifiParametersChanged ap =>
          simp only [learnsBeyond, Bool.and_eq_true, Bool.not_eq_true', decide_eq_false_iff_not,
            List.any_eq_true] at beyond
          obtain ⟨wide, h, listens, learns⟩ := beyond
          cases h with
          | system i =>
              obtain ⟨d, here, loaded⟩ := (Option.any_eq_true _ _).mp learns
              obtain ⟨e, after, learned⟩ := World.learned_dispatch ap listens here loaded
              exact wide (learned.fits (fits e (List.mem_of_getElem? after)))
          | _ => cases learns
      | _ => cases beyond
  | _ => cases beyond

/-- The limits of the fields hold as long as no loaded system hears of an access point beyond them,
and such an access point breaks them at once. -/
theorem fits_until_beyond {layout : Layout} {capacity : Nat} {hardware : Hardware} :
    (Reached withinLimits Edit.IsSetter (erased layout capacity hardware) p → p.KeepsLimits) ∧
      ∀ e, p.permits e → p.withinLimits e ∨ ¬(p.step e).KeepsLimits := by
  constructor
  · intro reached
    have law : Law.withinLimits.OnWorld p.world :=
      Law.OnWorld.reached Law.ofRecords_erased reached
        (fun _ _ permits within law => withinLimits_step law permits within)
        fun x setter s known st loaded => by
          obtain ⟨old, was, rfl⟩ := Option.map_eq_some_iff.mp loaded
          exact Edit.fits setter (known old was)
    exact ⟨law.flash, fun d found => (law.devices d found).store⟩
  · intro e _
    cases beyond : p.learnsBeyond e with
    | true => exact .inr (not_fits_of_learnsBeyond beyond)
    | false => exact .inl (by simp [withinLimits, beyond])

/-- A network whose name is one letter too long. -/
def longName : AccessPoint :=
  ⟨"Conference Room, Building 4, East", Vector.replicate 6 0, 6, .wpa2Aes, "secret"⟩

def learnsLongName : List Event :=
  [.boot sampleOptions DeviceInfo.product false, .notify (.wifiParametersChanged longName)]

set_option maxRecDepth 4000 in
theorem fits_until_beyond_longName :
    (∃ p ∈ sample.run withinLimits failedJoin, (p.edit 0 (.rename longName.ssid)).KeepsLimits) ∧
      ∃ p ∈ sample.run withinLimits joining,
        ¬(p.step (.notify (.wifiParametersChanged longName))).KeepsLimits := by
  constructor
  · have ran : (sample.run withinLimits failedJoin).isSome := by decide +kernel
    obtain ⟨p, ran⟩ := Option.isSome_iff_exists.mp ran
    exact ⟨p, ran, fits_until_beyond.1 (.edit 0 (reachable_run ran).reached trivial)⟩
  · have ran : (sample.run withinLimits joining).any
        (·.learnsBeyond (.notify (.wifiParametersChanged longName))) := by
      decide +kernel
    obtain ⟨p, ran, beyond⟩ := (Option.any_eq_true _ _).mp ran
    obtain ⟨-, breaks⟩ := @fits_until_beyond p sampleLayout 8 sampleHardware
    exact ⟨p, ran, (breaks _ rfl).resolve_left (by simp [withinLimits, beyond])⟩

set_option maxRecDepth 4000 in
/-- The name of a network that was joined is stored with all its letters. -/
theorem learnsLongName_breaks : ¬∀ p, Reached always Edit.IsSetter sample p → p.KeepsLimits := by
  intro always
  have ran : (sample.run Scene.always learnsLongName).any fun p => !decide p.KeepsLimits := by
    decide +kernel
  obtain ⟨p, ran, breaks⟩ := (Option.any_eq_true _ _).mp ran
  have fits := always p (reachable_run ran).reached
  simp [fits] at breaks

end Scene
end ConnectedDevice
