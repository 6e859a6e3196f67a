import ConnectedDevice.Config.System
import ConnectedDevice.Config.BootTable

/-!
The record that a device keeps in flash: a boot table, the system settings, and data of the
application that the system does not look into.
-/

namespace ConnectedDevice

structure ConfigRecord where
  bootTable : BootTable
  system : SystemConfig
  appConfig : Bytes
deriving DecidableEq, Repr

namespace ConfigRecord

def factory (name : String) (seed : UInt32) (appDataSize : Nat) : ConfigRecord :=
  ⟨.empty, .factory name seed, List.replicate appDataSize 0⟩

/-- The factory settings under the present name and seed. The boot table stays, and so does the
size of the application data. -/
def restoreDefaults (r : ConfigRecord) : ConfigRecord :=
  { r with
    system := .factory r.system.name r.system.seed
    appConfig := List.replicate r.appConfig.length 0 }

/-- Application data cut or filled up with zeros to `size` bytes. -/
def resizeApp (r : ConfigRecord) (size : Nat) : ConfigRecord :=
  { r with
    appConfig := r.appConfig.take size ++ List.replicate (size - r.appConfig.length) 0 }

end ConfigRecord
end ConnectedDevice
