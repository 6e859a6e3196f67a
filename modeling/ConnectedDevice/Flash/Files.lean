import ConnectedDevice.Flash.Layout

/-!
Flash in files, one for each partition, in a directory of the host. A file that is missing is an
erased partition. Writes replace bytes; a file that is shorter than its partition grows with zeros
up to the place of a write.
-/

namespace ConnectedDevice

inductive FileEntry where
  | file (data : Bytes)
  | directory
deriving DecidableEq

/-- A directory of the host: its path, and its entries unless it does not exist. -/
structure HostDirectory where
  path : String
  entries : Option (List (String × FileEntry))

namespace HostDirectory

def find? (d : HostDirectory) (name : String) : Option FileEntry :=
  (d.entries.getD []).lookup name

/-- Replaces an entry of an existing directory. -/
def put (d : HostDirectory) (name : String) (e : FileEntry) : HostDirectory :=
  { d with entries := d.entries.map fun es => (name, e) :: es.filter (·.1 != name) }

/-- Writes a whole file, new or not. -/
def writeFile (d : HostDirectory) (name : String) (data : Bytes) :
    Except HostError HostDirectory :=
  if d.entries.isNone then .error .notFound
  else if d.find? name = some .directory then .error .isDirectory
  else .ok (d.put name (.file data))

def openFile (d : HostDirectory) (name : String) : Except HostError Bytes :=
  match d.find? name with
  | some (.file data) => .ok data
  | some .directory => .error .isDirectory
  | none => .error .notFound

/-- Makes the directory exist. -/
def create (d : HostDirectory) : HostDirectory := { d with entries := some (d.entries.getD []) }

def makeDirectory (d : HostDirectory) (name : String) : HostDirectory :=
  let d := d.create
  if (d.find? name).isSome then d else d.put name .directory

def remove (d : HostDirectory) : HostDirectory := { d with entries := none }

end HostDirectory

structure FileFlash where
  directory : HostDirectory
  layout : Layout

namespace FileFlash

def create (directory : HostDirectory) (layout : Layout) : FileFlash := ⟨directory.create, layout⟩

def fileName (p : Partition) : String := p.name ++ ".bin"

def path (f : FileFlash) (p : Partition) : String := s!"{f.directory.path}/{fileName p}"

def partition? (f : FileFlash) (p : Partition) : Option PartitionInfo := f.layout.find? p

def info (f : FileFlash) (p : Partition) : Except FlashError PartitionInfo :=
  match f.partition? p with
  | some info => .ok info
  | none => .error (.noPartition p)

/-- The error of the host, as an error of the flash. -/
def orElse {α : Type} (result : Except HostError α) (error : HostError → FlashError) :
    Except FlashError α :=
  match result with
  | .ok x => .ok x
  | .error e => .error (error e)

/-- The bytes of a partition's file, after creating it erased if it is missing. -/
def openPartition (f : FileFlash) (p : Partition) (size : Nat) :
    Except FlashError (FileFlash × Bytes) := do
  let name := fileName p
  let directory ←
    if (f.directory.find? name).isSome then pure f.directory
    else
      orElse (f.directory.writeFile name (List.replicate size erased)) (.notCreated (f.path p))
  let data ← orElse (directory.openFile name) (.notOpened (f.path p))
  return ({ f with directory }, data)

def erase (f : FileFlash) (p : Partition) : Except FlashError FileFlash := do
  let info ← f.info p
  let directory ← orElse (f.directory.writeFile (fileName p) (List.replicate info.size erased))
    (.notErased (f.path p))
  return { f with directory }

/-- Bytes from `offset` on replaced by `new`; an empty `new` changes nothing. -/
def overwrite (old : Bytes) (offset : Nat) (new : Bytes) : Bytes :=
  if new.isEmpty then old
  else
    old.take offset ++ List.replicate (offset - old.length) 0 ++ new ++
      old.drop (offset + new.length)

def write (f : FileFlash) (p : Partition) (offset : Nat) (data : Bytes) :
    Except FlashError FileFlash := do
  let info ← f.info p
  checkRange p offset data.length info.size
  let (f, old) ← f.openPartition p info.size
  return { f with directory := f.directory.put (fileName p) (.file (overwrite old offset data)) }

def read (f : FileFlash) (p : Partition) (offset length : Nat) :
    Except FlashError (FileFlash × Bytes) := do
  let info ← f.info p
  checkRange p offset length info.size
  let (f, data) ← f.openPartition p info.size
  let part := (data.drop offset).take length
  if part.length < length then throw (.notRead p .shortRead)
  return (f, part)

end FileFlash
end ConnectedDevice
