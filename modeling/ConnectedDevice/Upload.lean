import ConnectedDevice.Checksum.Crc16
import ConnectedDevice.Device.Basic

/-!
Uploads of firmware into the partition for received images. The partition is erased when the first
bytes arrive. The boot table names the image only after the whole of it arrived, so that an upload
that breaks off leaves the settings as they were. Several uploads can be under way at once; each
knows its own bytes only.
-/

namespace ConnectedDevice

open Act

/-- An upload under way. -/
structure Upload where
  target : PartitionInfo
  /-- the length of the image, if the sender declared it -/
  declared : Option Nat
  received : Crc16
deriving DecidableEq, Repr

namespace Upload

def start (declared : Option Nat) : Fallible Upload := do
  match (← get).board.flash.partition? .otaTemp with
  | none => throw .noOtaPartition
  | some target =>
    match declared with
    | some length =>
      if target.size < length then throw (.announcedTooLarge length target.size)
    | none => pure ()
    return ⟨target, declared, .empty⟩

/-- Writes a chunk behind those before it. An empty chunk is nothing. -/
def receive (u : Upload) (chunk : Bytes) : Fallible Upload := do
  if chunk.isEmpty then return u
  if u.target.size < u.received.size + chunk.length then throw (.uploadTooLarge u.target.size)
  if u.received.isEmpty then onFlash (·.erase .otaTemp)
  onFlash (·.write .otaTemp u.received.size chunk)
  return { u with received := u.received.update chunk }

/-- The boot table of an image that is whole. -/
def bootTable (u : Upload) : Except Error BootTable := do
  let length := u.received.size
  if u.received.isEmpty then throw .uploadEmpty
  match u.declared with
  | some declared => if length ≠ declared then throw (.uploadTruncated length declared)
  | none => pure ()
  if UInt32.size ≤ length then throw .uploadOutOfRange
  return .upgrade u.target.startAddress length.toUInt32 u.received.remainder

/-- The settings that install an image. A device that was not provisioned yet comes back with its
soft access point. -/
def install (t : BootTable) (s : Settings) : Settings :=
  let bypass := if s.system.configured = .allConfigured then s.system.bypass else .softAp
  { s with record := { s.record with bootTable := t, system := { s.system with bypass } } }

/-- Ends an upload whose bytes have all arrived: the image is installed at the next start. Gives its
length. -/
def finish (u : Upload) : Fallible Nat := do
  let table ← Fallible.ofExcept u.bootTable
  setSettings (install table (← settings))
  commit
  requestPower .softwareReset
  return u.received.size

/-- The rest of an upload that nothing interleaves with. A fault breaks it off after the chunks. -/
def receiveRest (u : Upload) (fault : Option String) : List Bytes → Fallible Nat
  | chunk :: chunks => do (← u.receive chunk).receiveRest fault chunks
  | [] =>
    match fault with
    | some text => throw (.uploadInterrupted text)
    | none => u.finish

def receiveAll (declared : Option Nat) (chunks : List Bytes) (fault : Option String) :
    Fallible Nat := do
  (← start declared).receiveRest fault chunks

end Upload
end ConnectedDevice
