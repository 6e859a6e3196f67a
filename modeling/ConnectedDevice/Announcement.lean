import ConnectedDevice.Device.Info
import ConnectedDevice.Wlan

/-!
How a device announces its configuration service on the local network: the names of the service and
of the host, and a record of properties in a fixed order.
-/

namespace ConnectedDevice

def serviceType : String := "_easylink_config._tcp.local."

structure ServiceRecord where
  device : DeviceInfo
  rfVersion : String
  mac : String
  configServer : Bool
  interface : Interface
  /-- chosen by the peer that provisions the device, zero before -/
  identifier : UInt32
deriving DecidableEq, Repr

namespace ServiceRecord

def flag (b : Bool) : String := if b then "T" else "F"

def properties (r : ServiceRecord) : List (String × String) :=
  [("FW", r.device.firmware), ("HD", r.device.hardware), ("PO", r.device.protocol),
    ("RF", r.rfVersion), ("MAC", r.mac), ("OS", r.device.os), ("MD", r.device.model),
    ("MF", r.device.manufacturer), ("FTC", flag r.configServer),
    ("wlan unconfigured", flag (r.interface == .softAp)), ("ID", toString r.identifier)]

end ServiceRecord

namespace DeviceInfo

def instanceName (d : DeviceInfo) (mac : MacAddress) : String := s!"{d.model}({mac.suffix})"

/-- Host names keep letters and digits and have hyphens for all else. -/
def hostName (d : DeviceInfo) (mac : MacAddress) : String :=
  let label := s!"{d.model}-{mac.suffix}"
  String.ofList (label.toList.map fun c => if c.isAlphanum then c else '-') ++ ".local."

end DeviceInfo

structure Announcement where
  instanceName : String
  hostName : String
  port : Nat
  record : ServiceRecord
deriving DecidableEq, Repr

namespace Announcement

def make (device : DeviceInfo) (mac : MacAddress) (rfVersion : String) (port : Nat)
    (configServer : Bool) (interface : Interface) (identifier : UInt32) : Announcement where
  instanceName := device.instanceName mac
  hostName := device.hostName mac
  port := port
  record := ⟨device, rfVersion, mac.text, configServer, interface, identifier⟩

end Announcement
end ConnectedDevice
