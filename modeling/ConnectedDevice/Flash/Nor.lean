import ConnectedDevice.Flash.Layout

/-!
Flash in memory. An erase sets all bits of a partition and a write only clears bits, so that a byte
holds the conjunction of all that was written to it since the last erase. An operation that fails
leaves no trace: it has no new flash to give.
-/

namespace ConnectedDevice

structure Region where
  startAddress : UInt32
  cells : Array UInt8
deriving DecidableEq

namespace Region

def blank (info : PartitionInfo) : Region := ⟨info.startAddress, Array.replicate info.size erased⟩

def info (r : Region) : PartitionInfo := ⟨r.startAddress, r.cells.size⟩

/-- Clears bits from `offset` on. -/
def program (cells : Array UInt8) (offset : Nat) : Bytes → Array UInt8
  | [] => cells
  | b :: rest => program (cells.modify offset (· &&& b)) (offset + 1) rest

end Region

structure Nor where
  bootloader : Option Region
  application : Option Region
  otaTemp : Option Region
  config : Option Region
  /-- erases and writes fail while this is set -/
  refusing : Bool

namespace Nor

def region? (f : Nor) : Partition → Option Region
  | .bootloader => f.bootloader
  | .application => f.application
  | .otaTemp => f.otaTemp
  | .config => f.config

def setRegion (f : Nor) (r : Region) : Partition → Nor
  | .bootloader => { f with bootloader := some r }
  | .application => { f with application := some r }
  | .otaTemp => { f with otaTemp := some r }
  | .config => { f with config := some r }

def blank (layout : Layout) : Nor where
  bootloader := (layout.find? .bootloader).map Region.blank
  application := (layout.find? .application).map Region.blank
  otaTemp := (layout.find? .otaTemp).map Region.blank
  config := (layout.find? .config).map Region.blank
  refusing := false

def partition? (f : Nor) (p : Partition) : Option PartitionInfo := (f.region? p).map Region.info

def contents? (f : Nor) (p : Partition) : Option Bytes := (f.region? p).map (·.cells.toList)

def find (f : Nor) (p : Partition) : Except FlashError Region :=
  match f.region? p with
  | some r => .ok r
  | none => .error (.noPartition p)

def checkWritable (f : Nor) (p : Partition) : Except FlashError Unit :=
  if f.refusing then .error (.refused p) else .ok ()

def erase (f : Nor) (p : Partition) : Except FlashError Nor := do
  f.checkWritable p
  let r ← f.find p
  return f.setRegion (.blank r.info) p

def write (f : Nor) (p : Partition) (offset : Nat) (data : Bytes) : Except FlashError Nor := do
  f.checkWritable p
  let r ← f.find p
  checkRange p offset data.length r.cells.size
  return f.setRegion { r with cells := Region.program r.cells offset data } p

def read (f : Nor) (p : Partition) (offset length : Nat) : Except FlashError Bytes := do
  let r ← f.find p
  checkRange p offset length r.cells.size
  return (r.cells.extract offset (offset + length)).toList

end Nor
end ConnectedDevice
