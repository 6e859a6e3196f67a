import ConnectedDevice.Config.System
import ConnectedDevice.Device.Info
import ConnectedDevice.Json.Writer

/-!
What a device reports of itself to a peer on the local network: the product, the settings without
any Wi-Fi key, and the present addresses.
-/

namespace ConnectedDevice.Report

open Json (Value)

def device (d : DeviceInfo) (c : SystemConfig) (s : RuntimeStatus) : Value :=
  .object [("NAME", .text c.name), ("MODEL", .text d.model), ("MANUFACTURER", .text d.manufacturer),
    ("FIRMWARE", .text d.firmware), ("HARDWARE", .text d.hardware), ("PROTOCOL", .text d.protocol),
    ("OS", .text d.os), ("RF", .text s.rfVersion), ("MAC", .text s.mac)]

def wlan (c : SystemConfig) : Value :=
  .object [("SSID", .text c.ssid), ("DHCP", .flag c.dhcpEnable), ("IP", .text c.localIp),
    ("NETMASK", .text c.netmask), ("GATEWAY", .text c.gateway), ("DNS1", .text c.dnsServer),
    ("RF_POWER_SAVE", .flag c.rfPowerSave), ("MCU_POWER_SAVE", .flag c.mcuPowerSave),
    ("CONFIGURED", .flag (c.configured == .allConfigured))]

def status (s : RuntimeStatus) : Value :=
  .object [("IP", .text s.localIp), ("NETMASK", .text s.netmask), ("GATEWAY", .text s.gateway),
    ("DNS1", .text s.dnsServer)]

def make (d : DeviceInfo) (c : SystemConfig) (s : RuntimeStatus) : Value :=
  .object [("DEVICE", device d c s), ("WLAN", wlan c), ("STATUS", status s)]

def json (d : DeviceInfo) (c : SystemConfig) (s : RuntimeStatus) : String := (make d c s).render

end ConnectedDevice.Report
