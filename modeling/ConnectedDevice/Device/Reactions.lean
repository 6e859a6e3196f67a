import ConnectedDevice.Device.Basic

/-!
What a system does with the notifications of the driver for as long as it runs.
-/

namespace ConnectedDevice

open Act

/-- The settings with what a join learned of its access point. -/
def SystemConfig.learn (c : SystemConfig) (ap : AccessPoint) : SystemConfig :=
  { c with
    ssid := ap.ssid
    bssid := ap.bssid
    channel := ap.channel
    security := ap.security
    key := ap.key }

def RuntimeStatus.setAddresses (s : RuntimeStatus) (ip : IpStatus) : RuntimeStatus :=
  { s with
    localIp := ip.localIp
    netmask := ip.netmask
    gateway := ip.gateway
    dnsServer := ip.dnsServer }

namespace Device

/-- The kinds of notifications that a system listens to, in the order of registration. -/
def kinds : List NotificationKind :=
  [.dhcpCompleted, .wifiConnectFailed, .wifiStatusChanged, .wifiFatalError, .stackOverflow,
    .wifiParametersChanged]

def onAddresses (ip : IpStatus) : Act Unit := do
  match (← device).store.loaded with
  | some s => setSettings { s with status := s.status.setAddresses ip }
  | none => pure ()

/-- Stores what a join learned, unless it is known. -/
def onParameters (ap : AccessPoint) : Act Unit := do
  match (← device).store.loaded with
  | some s =>
    if s.system.learn ap ≠ s.system then
      setSettings (s.modifySystem (·.learn ap))
      discard commit.run
  | none => pure ()

def react : Notification → Act Unit
  | .dhcpCompleted ip => onAddresses ip
  | .wifiParametersChanged ap => onParameters ap
  | .wifiFatalError | .stackOverflow _ => tell .reboot
  | _ => pure ()

end Device
end ConnectedDevice
