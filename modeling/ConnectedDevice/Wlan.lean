import ConnectedDevice.Config.System
import ConnectedDevice.Text.Hex

/-!
What a Wi-Fi driver is asked to do: the interfaces, the parameters of a join, and those of the
access point that the device opens itself. A normal join scans and uses the key as it was entered;
a fast join goes to the access point, and uses the key, that an earlier join learned.
-/

namespace ConnectedDevice

inductive Interface where
  | station
  | softAp
deriving DecidableEq, Repr

/-- How the driver receives credentials over the air. -/
inductive DiscoveryMethod where
  | easyLinkPlus
  | airKiss
deriving DecidableEq, Repr

inductive DhcpMode where
  | disabled
  | client
  | server
deriving DecidableEq, Repr

structure IpSettings where
  dhcp : DhcpMode
  localIp : String
  netmask : String
  gateway : String
  dnsServer : String
deriving DecidableEq, Repr

def IpSettings.ofConfig (c : SystemConfig) : IpSettings where
  dhcp := if c.dhcpEnable then .client else .disabled
  localIp := c.localIp
  netmask := c.netmask
  gateway := c.gateway
  dnsServer := c.dnsServer

structure JoinParams where
  ssid : String
  /-- known for a fast join only -/
  bssid : Option MacAddress
  channel : UInt8
  security : Security
  key : String
  ip : IpSettings
  /-- milliseconds between two tries of the driver -/
  retryInterval : Nat
deriving DecidableEq, Repr

namespace JoinParams

def normal (c : SystemConfig) : JoinParams where
  ssid := c.ssid
  bssid := none
  channel := 0
  security := .auto
  key := c.userKey
  ip := .ofConfig c
  retryInterval := 100

def fast (c : SystemConfig) : JoinParams where
  ssid := c.ssid
  bssid := some c.bssid
  channel := c.channel
  security := c.security
  key := c.key
  ip := .ofConfig c
  retryInterval := 100

def isFast (p : JoinParams) : Bool := p.bssid.isSome

end JoinParams

namespace MacAddress

/-- Upper-case pairs of digits with colons between them. -/
def text (mac : MacAddress) : String :=
  ":".intercalate (mac.toList.map fun b => String.ofList (Hex.upper b))

/-- The last three bytes, which name the device. -/
def suffix (mac : MacAddress) : String :=
  String.ofList ((mac.toList.drop 3).flatMap Hex.upper)

end MacAddress

structure SoftApConfig where
  ssid : String
  /-- empty for an open network -/
  key : String
  ip : IpSettings
deriving DecidableEq, Repr

/-- The open access point to which a device without a network falls back. -/
def SoftApConfig.fallback (mac : MacAddress) : SoftApConfig where
  ssid := "EasyLink_" ++ mac.suffix
  key := ""
  ip := ⟨.server, "10.10.10.1", "255.255.255.0", "10.10.10.1", ""⟩

end ConnectedDevice
