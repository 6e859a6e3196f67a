import ConnectedDevice.Notification.Basic
import ConnectedDevice.Text.Quoted
import ConnectedDevice.Update.Basic
import ConnectedDevice.Wlan

/-!
Texts for the log. They show every field but the Wi-Fi keys: a key is left out, or a fixed mark
stands for it.
-/

namespace ConnectedDevice.Describe

/-- The mark that stands for a key. -/
def redacted : String := Text.quoted "<redacted>"

def flag (b : Bool) : String := if b then "true" else "false"

def optional {α : Type} (f : α → String) : Option α → String
  | none => "None"
  | some x => s!"Some({f x})"

def list {α : Type} (f : α → String) (xs : List α) : String :=
  "[" ++ ", ".intercalate (xs.map f) ++ "]"

def bytes (data : Bytes) : String := list toString data

/-- Fields under the name of their type. Two dots tell that a field is left out. -/
def fields (name : String) (fs : List (String × String)) (complete : Bool) : String :=
  let shown := fs.map fun (key, value) => s!"{key}: {value}"
  let shown := if complete then shown else shown ++ [".."]
  name ++ " \x7b " ++ ", ".intercalate shown ++ " \x7d"

def security : Security → String
  | .open => "None"
  | .wep => "Wep"
  | .wpaTkip => "WpaTkip"
  | .wpaAes => "WpaAes"
  | .wpa2Tkip => "Wpa2Tkip"
  | .wpa2Aes => "Wpa2Aes"
  | .wpa2Mixed => "Wpa2Mixed"
  | .auto => "Auto"

def dhcpMode : DhcpMode → String
  | .disabled => "Disabled"
  | .client => "Client"
  | .server => "Server"

def wifiEvent : WifiEvent → String
  | .stationUp => "StationUp"
  | .stationDown => "StationDown"
  | .apUp => "ApUp"
  | .apDown => "ApDown"

def credentials (c : Credentials) : String :=
  fields "Credentials" [("ssid", Text.quoted c.ssid), ("key", redacted)] true

def accessPoint (ap : AccessPoint) : String :=
  fields "ApInfo"
    [("ssid", Text.quoted ap.ssid), ("bssid", bytes ap.bssid.toList),
      ("channel", toString ap.channel), ("security", security ap.security)]
    false

def ipSettings (ip : IpSettings) : String :=
  fields "IpSettings"
    [("dhcp", dhcpMode ip.dhcp), ("local_ip", Text.quoted ip.localIp),
      ("netmask", Text.quoted ip.netmask), ("gateway", Text.quoted ip.gateway),
      ("dns_server", Text.quoted ip.dnsServer)]
    true

def joinParams (p : JoinParams) : String :=
  fields "JoinParams"
    [("ssid", Text.quoted p.ssid), ("bssid", optional (fun mac => bytes mac.toList) p.bssid),
      ("channel", toString p.channel), ("security", security p.security),
      ("ip", ipSettings p.ip), ("retry_interval", s!"{p.retryInterval}ms")]
    false

def scanRecord (r : ScanRecord) : String :=
  fields "ScanRecord" [("ssid", Text.quoted r.ssid), ("rssi", toString r.rssi)] true

def ipStatus (ip : IpStatus) : String :=
  fields "IpStatus"
    [("local_ip", Text.quoted ip.localIp), ("netmask", Text.quoted ip.netmask),
      ("gateway", Text.quoted ip.gateway), ("dns_server", Text.quoted ip.dnsServer)]
    true

def notification (n : Notification) : String :=
  let name := n.kind.name
  match n with
  | .scanCompleted records => s!"{name}({list scanRecord records})"
  | .wifiStatusChanged event => s!"{name}({wifiEvent event})"
  | .wifiParametersChanged ap => s!"{name}({accessPoint ap})"
  | .dhcpCompleted ip => s!"{name}({ipStatus ip})"
  | .easyLinkCompleted received => s!"{name}({optional credentials received})"
  | .easyLinkExtraData data => s!"{name}({bytes data})"
  | .systemWillPowerOff | .wifiFatalError => name
  | .wifiConnectFailed code => s!"{name}({code})"
  | .stackOverflow task => s!"{name}({Text.quoted task})"

def update (u : Update) : String :=
  let text := optional Text.quoted
  fields "ConfigUpdate"
    [("name", text u.name), ("ssid", text u.ssid),
      ("password", optional (fun _ => redacted) u.password), ("dhcp", optional flag u.dhcp),
      ("identifier", optional toString u.identifier), ("ip", text u.ip),
      ("netmask", text u.netmask), ("gateway", text u.gateway), ("dns1", text u.dns1),
      ("rf_power_save", optional flag u.rfPowerSave),
      ("mcu_power_save", optional flag u.mcuPowerSave)]
    true

end ConnectedDevice.Describe
