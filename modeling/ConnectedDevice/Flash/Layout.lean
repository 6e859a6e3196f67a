import ConnectedDevice.Bytes

/-!
Partitions of the flash: their places, and what can be wrong with an access to one.
-/

namespace ConnectedDevice

inductive Partition where
  | bootloader
  | application
  /-- holds an image that was received and not yet installed -/
  | otaTemp
  | config
deriving DecidableEq, Repr

def Partition.all : List Partition := [.bootloader, .application, .otaTemp, .config]

def Partition.name : Partition → String
  | .bootloader => "bootloader"
  | .application => "application"
  | .otaTemp => "ota"
  | .config => "config"

structure PartitionInfo where
  startAddress : UInt32
  size : Nat
deriving DecidableEq, Repr

abbrev Layout := List (Partition × PartitionInfo)

namespace Layout

def standard : Layout :=
  [(.config, ⟨0x4000, 8 * 1024⟩), (.application, ⟨0x8000, 512 * 1024⟩),
    (.otaTemp, ⟨0x88000, 512 * 1024⟩)]

/-- A later entry of a partition replaces the earlier ones. -/
def find? (layout : Layout) (p : Partition) : Option PartitionInfo :=
  layout.reverse.lookup p

end Layout

/-- What the host of a file says of it. -/
inductive HostError where
  | notFound
  | alreadyExists
  | isDirectory
  | shortRead
deriving DecidableEq, Repr

def HostError.message : HostError → String
  | .notFound => "No such file or directory (os error 2)"
  | .alreadyExists => "File exists (os error 17)"
  | .isDirectory => "Is a directory (os error 21)"
  | .shortRead => "failed to fill whole buffer"

inductive FlashError where
  | noPartition (p : Partition)
  | outOfRange (p : Partition) (offset length size : Nat)
  /-- the flash takes neither writes nor erases -/
  | refused (p : Partition)
  | notCreated (path : String) (cause : HostError)
  | notOpened (path : String) (cause : HostError)
  | notErased (path : String) (cause : HostError)
  | notRead (p : Partition) (cause : HostError)
deriving DecidableEq, Repr

def FlashError.message : FlashError → String
  | .noPartition p => s!"No {p.name} partition"
  | .outOfRange p offset length size =>
    s!"Range {offset}+{length} exceeds the {p.name} partition of {size} bytes"
  | .refused p => s!"Injected failure on the {p.name} partition"
  | .notCreated path cause => s!"Impossible to create `{path}`: {cause.message}"
  | .notOpened path cause => s!"Impossible to open `{path}`: {cause.message}"
  | .notErased path cause => s!"Impossible to erase `{path}`: {cause.message}"
  | .notRead p cause => s!"Read on the {p.name} partition: {cause.message}"

/-- The access of `length` bytes from `offset` on stays inside a partition. -/
def checkRange (p : Partition) (offset length size : Nat) : Except FlashError Unit :=
  if offset + length ≤ size then .ok () else .error (.outOfRange p offset length size)

/-- The value of an erased byte. -/
def erased : UInt8 := 0xFF

end ConnectedDevice
