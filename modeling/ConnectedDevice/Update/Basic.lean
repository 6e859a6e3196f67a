import ConnectedDevice.Config.System

/-!
Changes of the settings that a peer sends. Every field may be missing and then keeps its value. A
new network name forgets what was learned of the old network, a new password replaces both keys;
the next join detects the security type again.
-/

namespace ConnectedDevice

structure Update where
  name : Option String
  ssid : Option String
  password : Option String
  dhcp : Option Bool
  identifier : Option UInt32
  ip : Option String
  netmask : Option String
  gateway : Option String
  dns1 : Option String
  rfPowerSave : Option Bool
  mcuPowerSave : Option Bool
deriving DecidableEq, Repr

namespace Update

def empty : Update := ⟨none, none, none, none, none, none, none, none, none, none, none⟩

/-- Whether a reset is needed before a changed setting holds, and the identifier of the session
that the update came with. -/
structure Applied where
  needReboot : Bool
  identifier : Option UInt32
deriving DecidableEq, Repr

/-- Settings under change, and whether a change was seen. -/
structure Edited where
  config : SystemConfig
  changed : Bool

namespace Edited

/-- Gives a field the value that an update has for it, if it has one. -/
def set {α : Type} [BEq α] (e : Edited) (get : SystemConfig → α)
    (put : SystemConfig → α → SystemConfig) : Option α → Edited
  | none => e
  | some x => ⟨put e.config x, e.changed || get e.config != x⟩

def setText (e : Edited) (limit : Nat) (get : SystemConfig → String)
    (put : SystemConfig → String → SystemConfig) (o : Option String) : Edited :=
  e.set get put (o.map (Text.limited limit))

end Edited

def putSsid (c : SystemConfig) (ssid : String) : SystemConfig :=
  { c with
    ssid
    channel := 0
    bssid := Vector.replicate 6 0
    security := .auto
    key := c.userKey }

def putPassword (c : SystemConfig) (password : String) : SystemConfig :=
  { c with userKey := password, key := password, security := .auto }

def edit (u : Update) (c : SystemConfig) : Edited :=
  (Edited.mk c false).setText fieldLimits.name (·.name) ({ · with name := · }) u.name
    |>.setText fieldLimits.ssid (·.ssid) putSsid u.ssid
    |>.setText fieldLimits.key (·.userKey) putPassword u.password
    |>.set (·.dhcpEnable) ({ · with dhcpEnable := · }) u.dhcp
    |>.setText fieldLimits.address (·.localIp) ({ · with localIp := · }) u.ip
    |>.setText fieldLimits.address (·.netmask) ({ · with netmask := · }) u.netmask
    |>.setText fieldLimits.address (·.gateway) ({ · with gateway := · }) u.gateway
    |>.setText fieldLimits.address (·.dnsServer) ({ · with dnsServer := · }) u.dns1
    |>.set (·.rfPowerSave) ({ · with rfPowerSave := · }) u.rfPowerSave
    |>.set (·.mcuPowerSave) ({ · with mcuPowerSave := · }) u.mcuPowerSave

def apply (u : Update) (c : SystemConfig) : SystemConfig × Applied :=
  let e := u.edit c
  (e.config, ⟨e.changed, u.identifier⟩)

end Update
end ConnectedDevice
