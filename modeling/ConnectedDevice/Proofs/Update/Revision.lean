import ConnectedDevice.Update.Basic
import Mathlib.Logic.Basic

/-!
What an update makes of the settings, field by field. From it follow the laws of updates: one after
the other is as good as both in one, those that share no field may change places, and a second time
is as good as once.
-/

namespace ConnectedDevice

/-- The fields that an update can give a value to. All others follow from these, are learned by a
join, or are the device's own. -/
structure Entries where
  name : String
  ssid : String
  userKey : String
  dhcpEnable : Bool
  localIp : String
  netmask : String
  gateway : String
  dnsServer : String
  rfPowerSave : Bool
  mcuPowerSave : Bool
deriving DecidableEq, Repr

def SystemConfig.entries (c : SystemConfig) : Entries where
  name := c.name
  ssid := c.ssid
  userKey := c.userKey
  dhcpEnable := c.dhcpEnable
  localIp := c.localIp
  netmask := c.netmask
  gateway := c.gateway
  dnsServer := c.dnsServer
  rfPowerSave := c.rfPowerSave
  mcuPowerSave := c.mcuPowerSave

namespace Update

/-- A text with the value that an update has for it, if it has one. -/
def text (limit : Nat) (o : Option String) (old : String) : String :=
  (o.map (Text.limited limit)).getD old

/-- The update names the network or its password, so that the next join starts afresh. -/
def renews (u : Update) : Bool := u.ssid.isSome || u.password.isSome

/-- The settings after an update. -/
def revised (u : Update) (c : SystemConfig) : SystemConfig :=
  let userKey := text fieldLimits.key u.password c.userKey
  { c with
    name := text fieldLimits.name u.name c.name
    ssid := text fieldLimits.ssid u.ssid c.ssid
    userKey
    key := if u.renews then userKey else c.key
    bssid := if u.ssid.isSome then Vector.replicate 6 0 else c.bssid
    channel := if u.ssid.isSome then 0 else c.channel
    security := if u.renews then .auto else c.security
    rfPowerSave := u.rfPowerSave.getD c.rfPowerSave
    mcuPowerSave := u.mcuPowerSave.getD c.mcuPowerSave
    dhcpEnable := u.dhcp.getD c.dhcpEnable
    localIp := text fieldLimits.address u.ip c.localIp
    netmask := text fieldLimits.address u.netmask c.netmask
    gateway := text fieldLimits.address u.gateway c.gateway
    dnsServer := text fieldLimits.address u.dns1 c.dnsServer }

namespace Edited

variable {c : SystemConfig} (changed : Bool)

/-- Where a field that is given its present value makes no difference, a field without a value
counts as one that is given its present value. -/
theorem set_of_same {α : Type} [BEq α] [LawfulBEq α] {get : SystemConfig → α}
    {put : SystemConfig → α → SystemConfig} (same : put c (get c) = c) (o : Option α) :
    (Edited.mk c changed).set get put o =
      ⟨put c (o.getD (get c)), changed || get c != o.getD (get c)⟩ := by
  cases o with
  | none => simp [set, same]
  | some x => rfl

theorem setText_of_same {get : SystemConfig → String} {put : SystemConfig → String → SystemConfig}
    (limit : Nat) (same : put c (get c) = c) (o : Option String) :
    (Edited.mk c changed).setText limit get put o =
      ⟨put c (text limit o (get c)), changed || get c != text limit o (get c)⟩ :=
  set_of_same changed same _

theorem setText_putSsid (o : Option String) :
    (Edited.mk c changed).setText fieldLimits.ssid (·.ssid) putSsid o =
      ⟨{ c with
          ssid := text fieldLimits.ssid o c.ssid
          key := if o.isSome then c.userKey else c.key
          bssid := if o.isSome then Vector.replicate 6 0 else c.bssid
          channel := if o.isSome then 0 else c.channel
          security := if o.isSome then .auto else c.security },
        changed || c.ssid != text fieldLimits.ssid o c.ssid⟩ := by
  cases o <;> simp [setText, set, text, putSsid]

theorem setText_putPassword (o : Option String) :
    (Edited.mk c changed).setText fieldLimits.key (·.userKey) putPassword o =
      ⟨{ c with
          userKey := text fieldLimits.key o c.userKey
          key := if o.isSome then text fieldLimits.key o c.userKey else c.key
          security := if o.isSome then .auto else c.security },
        changed || c.userKey != text fieldLimits.key o c.userKey⟩ := by
  cases o <;> simp [setText, set, text, putPassword]

end Edited

variable (u v : Update) (c : SystemConfig)

/-- An update sees a change where an entry changes. -/
theorem edit_eq : u.edit c = ⟨u.revised c, c.entries != (u.revised c).entries⟩ := by
  simp only [edit, Edited.setText_putSsid, Edited.setText_putPassword, Edited.setText_of_same,
    Edited.set_of_same, Edited.mk.injEq]
  constructor
  · cases network : u.ssid <;> cases password : u.password <;>
      simp [revised, renews, text, network, password]
  · rw [Bool.eq_iff_iff]
    simp only [SystemConfig.entries, revised, bne_iff_ne, Bool.or_eq_true, ne_eq, Entries.mk.injEq,
      Bool.false_or, not_and_or, or_assoc]

theorem apply_fst : (u.apply c).1 = u.revised c := by rw [apply, edit_eq]

theorem needReboot_eq : (u.apply c).2.needReboot = (c.entries != (u.revised c).entries) := by
  rw [apply, edit_eq]

/-- Both updates in one: a field has the later value where there is one. -/
def andThen : Update where
  name := v.name.or u.name
  ssid := v.ssid.or u.ssid
  password := v.password.or u.password
  dhcp := v.dhcp.or u.dhcp
  identifier := v.identifier.or u.identifier
  ip := v.ip.or u.ip
  netmask := v.netmask.or u.netmask
  gateway := v.gateway.or u.gateway
  dns1 := v.dns1.or u.dns1
  rfPowerSave := v.rfPowerSave.or u.rfPowerSave
  mcuPowerSave := v.mcuPowerSave.or u.mcuPowerSave

/-- No setting has a value in both updates. -/
structure Disjoint : Prop where
  name : u.name = none ∨ v.name = none
  ssid : u.ssid = none ∨ v.ssid = none
  password : u.password = none ∨ v.password = none
  dhcp : u.dhcp = none ∨ v.dhcp = none
  ip : u.ip = none ∨ v.ip = none
  netmask : u.netmask = none ∨ v.netmask = none
  gateway : u.gateway = none ∨ v.gateway = none
  dns1 : u.dns1 = none ∨ v.dns1 = none
  rfPowerSave : u.rfPowerSave = none ∨ v.rfPowerSave = none
  mcuPowerSave : u.mcuPowerSave = none ∨ v.mcuPowerSave = none

theorem revised_andThen : (u.andThen v).revised c = v.revised (u.revised c) := by
  -- the network and the password are the fields that others follow from
  cases first : u.ssid <;> cases second : v.ssid <;> cases former : u.password <;>
    cases latter : v.password <;>
      simp [revised, andThen, renews, text, Option.map_or, Option.getD_or, first, second, former,
        latter]

variable {u v} in
theorem revised_comm (apart : u.Disjoint v) :
    v.revised (u.revised c) = u.revised (v.revised c) := by
  have swap {α : Type} {o p : Option α} (none : o = none ∨ p = none) : p.or o = o.or p := by
    rcases none with rfl | rfl <;> simp
  have same : { u.andThen v with identifier := none } = { v.andThen u with identifier := none } := by
    simp only [andThen, swap apart.name, swap apart.ssid, swap apart.password, swap apart.dhcp,
      swap apart.ip, swap apart.netmask, swap apart.gateway, swap apart.dns1,
      swap apart.rfPowerSave, swap apart.mcuPowerSave]
  calc v.revised (u.revised c) = { u.andThen v with identifier := none }.revised c :=
        (revised_andThen u v c).symm
    _ = { v.andThen u with identifier := none }.revised c := by rw [same]
    _ = u.revised (v.revised c) := revised_andThen v u c

theorem revised_revised : u.revised (u.revised c) = u.revised c := by
  have once : u.andThen u = u := by simp only [andThen, Option.or_self]
  rw [← revised_andThen, once]

/-- How far a device is configured is beyond the reach of an update. -/
theorem revised_advance (next : ConfigState) :
    u.revised (c.advance next) = (u.revised c).advance next := by
  have same : (u.revised c).configured = c.configured := rfl
  unfold SystemConfig.advance
  rw [same]
  split <;> rfl

theorem entries_advance (next : ConfigState) : (c.advance next).entries = c.entries := by
  unfold SystemConfig.advance
  split <;> rfl

theorem revised_empty : empty.revised c = c := rfl

/-- Any number of updates, one after the other, are as good as one. -/
theorem revised_foldl (us : List Update) :
    us.foldl (fun c u => u.revised c) c = (us.foldl andThen empty).revised c := by
  suffices merged : ∀ w : Update,
      us.foldl (fun c u => u.revised c) (w.revised c) = (us.foldl andThen w).revised c by
    rw [← merged empty, revised_empty]
  induction us with
  | nil => exact fun _ => rfl
  | cons u us ih =>
      intro w
      rw [List.foldl_cons, List.foldl_cons, ← revised_andThen]
      exact ih _

/-- Updates compose. The fields of the device itself are out of their reach. -/
theorem apply_compose :
    (v.apply (u.apply c).1).1 = ((u.andThen v).apply c).1 ∧
      (u.Disjoint v → (v.apply (u.apply c).1).1 = (u.apply (v.apply c).1).1) ∧
      u.apply (u.apply c).1 = ((u.apply c).1, ⟨false, u.identifier⟩) ∧
      ((u.apply c).1.configured, (u.apply c).1.bypass, (u.apply c).1.seed) =
        (c.configured, c.bypass, c.seed) := by
  simp only [apply_fst]
  refine ⟨(revised_andThen u v c).symm, revised_comm c, ?_, rfl⟩
  simp [apply, edit_eq, revised_revised]

/-- Settings after a join that learned its access point. -/
def joined : SystemConfig :=
  { SystemConfig.factory "Kitchen" 1 with
    ssid := "Home"
    userKey := "12345678"
    key := "derived"
    bssid := #v[1, 2, 3, 4, 5, 6]
    channel := 11
    security := .wpa2Aes
    configured := .allConfigured }

/-- The network and its password come one by one, and give the same settings in either order. -/
theorem apply_compose_credentials :
    let network := { empty with ssid := some "Office", dhcp := some false }
    let password := { empty with password := some "87654321", name := some "Desk" }
    (password.apply (network.apply joined).1).1 = (network.apply (password.apply joined).1).1 ∧
      ((password.apply (network.apply joined).1).1.ssid,
        (password.apply (network.apply joined).1).1.key) = ("Office", "87654321") := by
  intro network password
  obtain ⟨-, commute, -, -⟩ := apply_compose network password joined
  refine ⟨commute ⟨?_, ?_, ?_, ?_, ?_, ?_, ?_, ?_, ?_, ?_⟩, by decide +kernel⟩ <;> decide

end Update
end ConnectedDevice
