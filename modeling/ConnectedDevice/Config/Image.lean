import ConnectedDevice.Checksum.Crc32
import ConnectedDevice.Codec.Reader
import ConnectedDevice.Config.Record

/-!
Configuration records as flash images. An image is a mark, the length of its payload, and the
payload: the fields of the record in order, followed by their checksum. Bytes after the payload do
not matter, nor do bytes between the checksum and the announced end of the payload.
-/

namespace ConnectedDevice

inductive ImageError where
  | badMagic
  | truncated
  | corrupted
  | encode
  | tooLarge
deriving DecidableEq, Repr

def ImageError.message : ImageError → String
  | .badMagic => "configuration image magic not found"
  | .truncated => "configuration image truncated"
  | .corrupted => "configuration image corrupted"
  | .encode => "configuration record cannot be encoded"
  | .tooLarge => "configuration image exceeds its partition"

namespace BootTable

def encode (t : BootTable) : Bytes :=
  Writer.word32 t.startAddress ++ Writer.word32 t.length ++ t.version.toList ++
    [t.imageType, t.upgradeType] ++ Writer.word16 t.crc ++ t.reserved.toList

def read : Reader BootTable := do
  let startAddress ← Reader.word32
  let length ← Reader.word32
  let version ← Reader.array 8
  let imageType ← Reader.byte
  let upgradeType ← Reader.byte
  let crc ← Reader.word16
  let reserved ← Reader.array 4
  return { startAddress, length, version, imageType, upgradeType, crc, reserved }

end BootTable

namespace SystemConfig

def encode (c : SystemConfig) : Bytes :=
  Writer.text c.name ++ Writer.text c.ssid ++ Writer.text c.userKey ++ Writer.text c.key ++
    c.bssid.toList ++ [c.channel] ++ Writer.choice Security.all c.security ++
    Writer.flag c.rfPowerSave ++ Writer.flag c.mcuPowerSave ++ Writer.flag c.dhcpEnable ++
    Writer.text c.localIp ++ Writer.text c.netmask ++ Writer.text c.gateway ++
    Writer.text c.dnsServer ++ Writer.choice ConfigState.all c.configured ++
    Writer.choice Bypass.all c.bypass ++ Writer.word32 c.seed

def read : Reader SystemConfig := do
  let name ← Reader.text
  let ssid ← Reader.text
  let userKey ← Reader.text
  let key ← Reader.text
  let bssid ← Reader.array 6
  let channel ← Reader.byte
  let security ← Reader.choice Security.all
  let rfPowerSave ← Reader.flag
  let mcuPowerSave ← Reader.flag
  let dhcpEnable ← Reader.flag
  let localIp ← Reader.text
  let netmask ← Reader.text
  let gateway ← Reader.text
  let dnsServer ← Reader.text
  let configured ← Reader.choice ConfigState.all
  let bypass ← Reader.choice Bypass.all
  let seed ← Reader.word32
  return { name, ssid, userKey, key, bssid, channel, security, rfPowerSave, mcuPowerSave,
           dhcpEnable, localIp, netmask, gateway, dnsServer, configured, bypass, seed }

end SystemConfig

namespace ConfigRecord

def encode (r : ConfigRecord) : Bytes :=
  r.bootTable.encode ++ r.system.encode ++ Writer.blob r.appConfig

def read : Reader ConfigRecord := do
  let bootTable ← BootTable.read
  let system ← SystemConfig.read
  let appConfig ← Reader.blob
  return { bootTable, system, appConfig }

/-- The mark at the front of every image. -/
def magic : UInt32 := 0x4D49434F

/-- The encoded record and its checksum. -/
def payload (r : ConfigRecord) : Bytes :=
  let fields := r.encode
  fields ++ Bytes.ofWord32 (crc32 fields)

def toImage (r : ConfigRecord) : Except ImageError Bytes :=
  let payload := r.payload
  if payload.length < UInt32.size then
    .ok (Bytes.ofWord32 magic ++ Bytes.ofWord32 payload.length.toUInt32 ++ payload)
  else .error .tooLarge

/-- A record is read first; the four bytes after it must be the checksum of the bytes it took. -/
def ofPayload? (payload : Bytes) : Option ConfigRecord := do
  let (record, rest) ← read payload
  let fields := payload.take (payload.length - rest.length)
  match rest with
  | a :: b :: c :: d :: _ => if Bytes.word32 a b c d = crc32 fields then some record else none
  | _ => none

def ofImage : Bytes → Except ImageError ConfigRecord
  | m0 :: m1 :: m2 :: m3 :: l0 :: l1 :: l2 :: l3 :: rest =>
    if Bytes.word32 m0 m1 m2 m3 ≠ magic then .error .badMagic
    else
      let length := (Bytes.word32 l0 l1 l2 l3).toNat
      if rest.length < length then .error .truncated
      else
        match ofPayload? (rest.take length) with
        | some record => .ok record
        | none => .error .corrupted
  | _ => .error .truncated

end ConfigRecord
end ConnectedDevice
