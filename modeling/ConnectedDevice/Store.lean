import ConnectedDevice.Error
import ConnectedDevice.Flash.Nor

/-!
The configuration store: the record in memory, loaded from the configuration partition and written
back as a whole. An image that cannot be read, or that belongs to another version of the settings,
is replaced in memory by the factory record; the flash keeps it until the next commit.
-/

namespace ConnectedDevice

/-- The record and the runtime status of a store that was loaded. -/
structure Settings where
  record : ConfigRecord
  status : RuntimeStatus
deriving DecidableEq

namespace Settings

def system (s : Settings) : SystemConfig := s.record.system

def modifySystem (s : Settings) (f : SystemConfig → SystemConfig) : Settings :=
  { s with record := { s.record with system := f s.record.system } }

def needsProvisioning (s : Settings) : Bool := s.system.configured.needsProvisioning

def wasConfigured (s : Settings) : Bool := s.system.configured != .unconfigured

/-- Writes the record to flash in one pass: the partition is erased, then the image is written. The
image's size is checked before anything is erased. -/
def commit (s : Settings) (f : Nor) : Except Error Unit × Nor :=
  match s.record.toImage with
  | .error e => (.error (.image e), f)
  | .ok image =>
    let size := ((f.partition? .config).map (·.size)).getD 0
    if size < image.length then (.error (.recordTooLarge image.length size), f)
    else
      match f.erase .config with
      | .error e => (.error (.flash e), f)
      | .ok f =>
        match f.write .config 0 image with
        | .error e => (.error (.flash e), f)
        | .ok f => (.ok (), f)

end Settings

structure Store where
  defaultName : String
  seed : UInt32
  /-- nothing before the record was loaded -/
  loaded : Option Settings
deriving DecidableEq

namespace Store

def make (defaultName : String) (seed : UInt32) : Store := ⟨defaultName, seed, none⟩

def lock (s : Store) : Except Error Settings :=
  match s.loaded with
  | some settings => .ok settings
  | none => .error .storeNotInitialized

def set (s : Store) (settings : Settings) : Store := { s with loaded := some settings }

/-- The record that an image stands for at boot. -/
def recordOf (s : Store) (image : Bytes) (appDataSize : Nat) : ConfigRecord :=
  let record :=
    match ConfigRecord.ofImage image with
    | .ok record =>
      if record.system.seed = s.seed then record
      else .factory s.defaultName s.seed appDataSize
    | .error _ => .factory s.defaultName s.seed appDataSize
  record.resizeApp appDataSize

def init (s : Store) (f : Nor) (appDataSize : Nat) : Except Error Store :=
  match f.partition? .config with
  | none => .error .noConfigPartition
  | some info =>
    match f.read .config 0 info.size with
    | .error e => .error (.flash e)
    | .ok image => .ok (s.set ⟨s.recordOf image appDataSize, .empty⟩)

def commit (s : Store) (f : Nor) : Except Error Unit × Nor :=
  match s.lock with
  | .ok settings => settings.commit f
  | .error e => (.error e, f)

end Store
end ConnectedDevice
