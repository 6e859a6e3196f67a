import ConnectedDevice.Config.System

/-!
What the Wi-Fi driver and the system announce to the rest of the device.
-/

namespace ConnectedDevice

inductive WifiEvent where
  | stationUp
  | stationDown
  | apUp
  | apDown
deriving DecidableEq, Repr

/-- What the first stage of a discovery delivers. -/
structure Credentials where
  ssid : String
  key : String
deriving DecidableEq, Repr

structure IpStatus where
  localIp : String
  netmask : String
  gateway : String
  dnsServer : String
deriving DecidableEq, Repr

/-- What the driver learned of an access point by joining it. -/
structure AccessPoint where
  ssid : String
  bssid : MacAddress
  channel : UInt8
  security : Security
  key : String
deriving DecidableEq, Repr

structure ScanRecord where
  ssid : String
  /-- signal strength in dBm -/
  rssi : Int
deriving DecidableEq, Repr

inductive NotificationKind where
  | scanCompleted
  | wifiStatusChanged
  | wifiParametersChanged
  | dhcpCompleted
  | easyLinkCompleted
  | easyLinkExtraData
  | systemWillPowerOff
  | wifiConnectFailed
  | wifiFatalError
  | stackOverflow
deriving DecidableEq, Repr

namespace NotificationKind

def all : List NotificationKind :=
  [.scanCompleted, .wifiStatusChanged, .wifiParametersChanged, .dhcpCompleted, .easyLinkCompleted,
    .easyLinkExtraData, .systemWillPowerOff, .wifiConnectFailed, .wifiFatalError, .stackOverflow]

def name : NotificationKind → String
  | .scanCompleted => "ScanCompleted"
  | .wifiStatusChanged => "WifiStatusChanged"
  | .wifiParametersChanged => "WifiParametersChanged"
  | .dhcpCompleted => "DhcpCompleted"
  | .easyLinkCompleted => "EasyLinkCompleted"
  | .easyLinkExtraData => "EasyLinkExtraData"
  | .systemWillPowerOff => "SystemWillPowerOff"
  | .wifiConnectFailed => "WifiConnectFailed"
  | .wifiFatalError => "WifiFatalError"
  | .stackOverflow => "StackOverflow"

end NotificationKind

inductive Notification where
  | scanCompleted (records : List ScanRecord)
  | wifiStatusChanged (event : WifiEvent)
  | wifiParametersChanged (ap : AccessPoint)
  | dhcpCompleted (ip : IpStatus)
  /-- no credentials stand for a discovery that failed -/
  | easyLinkCompleted (credentials : Option Credentials)
  | easyLinkExtraData (data : Bytes)
  | systemWillPowerOff
  | wifiConnectFailed (code : Int)
  | wifiFatalError
  | stackOverflow (task : String)
deriving DecidableEq, Repr

def Notification.kind : Notification → NotificationKind
  | .scanCompleted _ => .scanCompleted
  | .wifiStatusChanged _ => .wifiStatusChanged
  | .wifiParametersChanged _ => .wifiParametersChanged
  | .dhcpCompleted _ => .dhcpCompleted
  | .easyLinkCompleted _ => .easyLinkCompleted
  | .easyLinkExtraData _ => .easyLinkExtraData
  | .systemWillPowerOff => .systemWillPowerOff
  | .wifiConnectFailed _ => .wifiConnectFailed
  | .wifiFatalError => .wifiFatalError
  | .stackOverflow _ => .stackOverflow

end ConnectedDevice
