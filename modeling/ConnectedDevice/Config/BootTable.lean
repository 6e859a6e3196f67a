import ConnectedDevice.Bytes

/-!
The boot table: where the boot loader finds an image that waits to be installed, and its checksum.
-/

namespace ConnectedDevice

inductive ImageType where
  | application
  | bootloader
  | bootTable
  | driver
deriving DecidableEq, Repr

namespace ImageType

def all : List ImageType := [.application, .bootloader, .bootTable, .driver]

/-- The letter that stands for an image type in a boot table: `A`, `B`, `P` or `D`. -/
def toByte : ImageType → UInt8
  | .application => 0x41
  | .bootloader => 0x42
  | .bootTable => 0x50
  | .driver => 0x44

def ofByte? (b : UInt8) : Option ImageType := all.find? fun t => t.toByte == b

end ImageType

structure BootTable where
  startAddress : UInt32
  length : UInt32
  version : Vector UInt8 8
  imageType : UInt8
  upgradeType : UInt8
  crc : UInt16
  reserved : Vector UInt8 4
deriving DecidableEq, Repr

namespace BootTable

def empty : BootTable := ⟨0, 0, Vector.replicate 8 0, 0, 0, 0, Vector.replicate 4 0⟩

/-- The letter `U` marks an image that waits to be installed. -/
def pendingMark : UInt8 := 0x55

def upgrade (startAddress length : UInt32) (crc : UInt16) : BootTable :=
  { empty with
    startAddress, length, crc
    imageType := ImageType.application.toByte
    upgradeType := pendingMark }

def isPending (t : BootTable) : Bool := t.upgradeType == pendingMark

end BootTable
end ConnectedDevice
