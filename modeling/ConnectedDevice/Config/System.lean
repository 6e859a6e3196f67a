import ConnectedDevice.Text.Limited
import ConnectedDevice.Bytes

/-!
The system settings of a device: its name, the Wi-Fi network it joins, its addresses, and how far
its provisioning has come. The provisioning state moves forward only, from `unconfigured` to
`allConfigured`; a request to reconfigure or a restore of the defaults takes it back.
-/

namespace ConnectedDevice

abbrev MacAddress := Vector UInt8 6

inductive ConfigState where
  | unconfigured
  | wlanUnconfigured
  | allConfigured
deriving DecidableEq, Repr, Inhabited

namespace ConfigState

def all : List ConfigState := [.unconfigured, .wlanUnconfigured, .allConfigured]

def rank : ConfigState → Nat
  | .unconfigured => 0
  | .wlanUnconfigured => 1
  | .allConfigured => 2

def needsProvisioning (s : ConfigState) : Bool := s != .allConfigured

def canAdvanceTo (s next : ConfigState) : Bool := s.rank ≤ next.rank

end ConfigState

/-- What the next provisioning run does instead of a discovery. -/
inductive Bypass where
  | no
  /-- join the stored network directly -/
  | join
  /-- open the soft access point directly -/
  | softAp
deriving DecidableEq, Repr, Inhabited

def Bypass.all : List Bypass := [.no, .join, .softAp]

inductive Security where
  | open
  | wep
  | wpaTkip
  | wpaAes
  | wpa2Tkip
  | wpa2Aes
  | wpa2Mixed
  /-- detected while joining -/
  | auto
deriving DecidableEq, Repr, Inhabited

def Security.all : List Security :=
  [.open, .wep, .wpaTkip, .wpaAes, .wpa2Tkip, .wpa2Aes, .wpa2Mixed, .auto]

/-- The greatest sizes of the text fields, in bytes of UTF-8. -/
structure FieldLimits where
  name : Nat
  ssid : Nat
  key : Nat
  address : Nat

def fieldLimits : FieldLimits := ⟨32, 32, 64, 16⟩

structure SystemConfig where
  name : String
  ssid : String
  /-- the Wi-Fi key as it was entered -/
  userKey : String
  /-- the Wi-Fi key derived by the last join -/
  key : String
  bssid : MacAddress
  /-- zero stands for any channel -/
  channel : UInt8
  security : Security
  rfPowerSave : Bool
  mcuPowerSave : Bool
  dhcpEnable : Bool
  localIp : String
  netmask : String
  gateway : String
  dnsServer : String
  configured : ConfigState
  bypass : Bypass
  /-- the version of the defaults that the settings started from -/
  seed : UInt32
deriving DecidableEq, Repr

namespace SystemConfig

def factory (name : String) (seed : UInt32) : SystemConfig where
  name := Text.limited fieldLimits.name name
  ssid := ""
  userKey := ""
  key := ""
  bssid := Vector.replicate 6 0
  channel := 0
  security := .auto
  rfPowerSave := false
  mcuPowerSave := false
  dhcpEnable := true
  localIp := ""
  netmask := ""
  gateway := ""
  dnsServer := ""
  configured := .unconfigured
  bypass := .no
  seed := seed

/-- Both keys become the given one, and what an earlier join learned is forgotten. -/
def setCredentials (c : SystemConfig) (ssid key : String) : SystemConfig :=
  let key := Text.limited fieldLimits.key key
  { c with
    ssid := Text.limited fieldLimits.ssid ssid
    userKey := key
    key := key
    bssid := Vector.replicate 6 0
    channel := 0
    security := .auto }

def setStaticIp (c : SystemConfig) (localIp netmask gateway dns : String) : SystemConfig :=
  { c with
    dhcpEnable := false
    localIp := Text.limited fieldLimits.address localIp
    netmask := Text.limited fieldLimits.address netmask
    gateway := Text.limited fieldLimits.address gateway
    dnsServer := Text.limited fieldLimits.address dns }

def setName (c : SystemConfig) (name : String) : SystemConfig :=
  { c with name := Text.limited fieldLimits.name name }

/-- Moves the provisioning state to `next` unless that is a step back. -/
def advance (c : SystemConfig) (next : ConfigState) : SystemConfig :=
  if c.configured.canAdvanceTo next then { c with configured := next } else c

def requestReconfiguration (c : SystemConfig) : SystemConfig :=
  if c.configured = .allConfigured then { c with configured := .wlanUnconfigured } else c

end SystemConfig

/-- What is observed of the network while the device runs. It is never stored. -/
structure RuntimeStatus where
  localIp : String
  netmask : String
  gateway : String
  dnsServer : String
  mac : String
  rfVersion : String
deriving DecidableEq, Repr, Inhabited

def RuntimeStatus.empty : RuntimeStatus := ⟨"", "", "", "", "", ""⟩

end ConnectedDevice
