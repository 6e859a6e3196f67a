import ConnectedDevice.Proofs.Json.Writer
import ConnectedDevice.Proofs.Text.Limited
import ConnectedDevice.Proofs.Update.Language
import ConnectedDevice.Proofs.Update.Reboot
import ConnectedDevice.Report

/-!
The report can be written back. Its sections are updates that repeat what the device has, so that a
peer that sends one of them changes no setting.
-/

namespace ConnectedDevice.Report

open Json Update
open Text (encode)

variable (d : DeviceInfo) (c : SystemConfig) (s : RuntimeStatus)

/-- The update that names the device as it is named. -/
def naming : Update := { Update.empty with name := some c.name }

/-- The update that repeats the settings of the network, as far as the report shows them. -/
def joining : Update :=
  { Update.empty with
    ssid := some c.ssid
    dhcp := some c.dhcpEnable
    ip := some c.localIp
    netmask := some c.netmask
    gateway := some c.gateway
    dns1 := some c.dnsServer
    rfPowerSave := some c.rfPowerSave
    mcuPowerSave := some c.mcuPowerSave }

/-- A value as it is sent. -/
def sent (v : Value) : Bytes := v.render.toUTF8.data.toList

theorem sent_eq_encode (v : Value) : sent v = encode v.write := Text.utf8_ofList v.write

theorem ofJson_device : ofJson (sent (device d c s)) = .ok (naming c) := by
  rw [sent_eq_encode, device]
  refine ofJson_of_objectText (objectText_write _) fun f => ?_
  cases f with
  | name => exact .inr ⟨_, rfl, encode_text c.name⟩
  | _ => exact .inl ⟨rfl, rfl⟩

theorem ofJson_wlan : ofJson (sent (wlan c)) = .ok (joining c) := by
  rw [sent_eq_encode, wlan]
  refine ofJson_of_objectText (objectText_write _) fun f => ?_
  cases f with
  | name | password | identifier => exact .inl ⟨rfl, rfl⟩
  | ssid => exact .inr ⟨_, rfl, encode_text c.ssid⟩
  | dhcp => exact .inr ⟨_, rfl, encode_flag c.dhcpEnable⟩
  | ip => exact .inr ⟨_, rfl, encode_text c.localIp⟩
  | netmask => exact .inr ⟨_, rfl, encode_text c.netmask⟩
  | gateway => exact .inr ⟨_, rfl, encode_text c.gateway⟩
  | dns1 => exact .inr ⟨_, rfl, encode_text c.dnsServer⟩
  | rfPowerSave => exact .inr ⟨_, rfl, encode_flag c.rfPowerSave⟩
  | mcuPowerSave => exact .inr ⟨_, rfl, encode_flag c.mcuPowerSave⟩

theorem needReboot_naming (fits : c.name.utf8ByteSize ≤ fieldLimits.name) :
    ((naming c).apply c).2.needReboot = false := by
  rw [needReboot_eq_false_iff, apply_fst]
  simp [SystemConfig.entries, revised, Update.text, naming, Update.empty, Text.limited_of_le fits]

theorem needReboot_joining (network : c.ssid.utf8ByteSize ≤ fieldLimits.ssid)
    (addresses : ∀ t ∈ [c.localIp, c.netmask, c.gateway, c.dnsServer],
      t.utf8ByteSize ≤ fieldLimits.address) :
    ((joining c).apply c).2.needReboot = false := by
  have uncut (t) (within : t ∈ [c.localIp, c.netmask, c.gateway, c.dnsServer]) :
      Text.limited fieldLimits.address t = t :=
    Text.limited_of_le (addresses t within)
  rw [needReboot_eq_false_iff, apply_fst]
  simp [SystemConfig.entries, revised, Update.text, joining, Update.empty,
    Text.limited_of_le network, uncut]

/-- The report is an object of three sections, and of nothing else. -/
theorem objectText_json {ms : List Member} : ObjectText (json d c s).toUTF8.data.toList ms ↔
    ms = [⟨"DEVICE", sent (device d c s)⟩, ⟨"WLAN", sent (wlan c)⟩,
      ⟨"STATUS", sent (status s)⟩] := by
  have object : ObjectText (json d c s).toUTF8.data.toList
      [⟨"DEVICE", sent (device d c s)⟩, ⟨"WLAN", sent (wlan c)⟩,
        ⟨"STATUS", sent (status s)⟩] := by
    simp only [sent_eq_encode, json, Value.render, Text.utf8_ofList]
    exact objectText_write _
  constructor
  · exact fun other => other.unique object
  · rintro rfl
    exact object

/-- The report is a JSON text, whatever characters its texts have. What stands in it under the names
of the device and of the network are updates that repeat the settings, and no other fields. Where
the texts are within their limits, to apply one of them asks for no reset. -/
theorem json_written_back :
    Grammatical (json d c s).toUTF8.data.toList ∧
      (∀ ms, ObjectText (json d c s).toUTF8.data.toList ms ↔
        ms = [⟨"DEVICE", sent (device d c s)⟩, ⟨"WLAN", sent (wlan c)⟩,
          ⟨"STATUS", sent (status s)⟩]) ∧
      ofJson (sent (device d c s)) = .ok (naming c) ∧
      ofJson (sent (wlan c)) = .ok (joining c) ∧
      (c.name.utf8ByteSize ≤ fieldLimits.name → ((naming c).apply c).2.needReboot = false) ∧
      (c.ssid.utf8ByteSize ≤ fieldLimits.ssid →
        (∀ t ∈ [c.localIp, c.netmask, c.gateway, c.dnsServer],
          t.utf8ByteSize ≤ fieldLimits.address) →
        ((joining c).apply c).2.needReboot = false) := by
  refine ⟨?_, fun ms => objectText_json d c s, ofJson_device d c s, ofJson_wlan c,
    needReboot_naming c, needReboot_joining c⟩
  rw [json, Value.render, Text.utf8_ofList]
  exact grammatical_write (make d c s)

/-- Settings with texts that must be escaped, and beyond ASCII. -/
def awkward : SystemConfig :=
  { joined with
    name := "Küche \"\\\n\x01"
    ssid := "\t網路\x1f"
    localIp := "192.168.1.2" }

theorem json_written_back_awkward :
    ofJson (sent (wlan awkward)) = .ok (joining awkward) ∧
      ((naming awkward).apply awkward).2.needReboot = false ∧
      ((joining awkward).apply awkward).2.needReboot = false := by
  obtain ⟨-, -, -, network, named, repeated⟩ := json_written_back .product awkward .empty
  exact ⟨network, named (by decide), repeated (by decide) (by decide)⟩

end ConnectedDevice.Report
