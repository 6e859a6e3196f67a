/-!
What a product says of itself, and the product that this firmware is made for.
-/

namespace ConnectedDevice

structure DeviceInfo where
  model : String
  manufacturer : String
  firmware : String
  hardware : String
  protocol : String
  os : String
deriving DecidableEq, Repr

namespace DeviceInfo

def product : DeviceInfo where
  model := "MiCOKit-LPC5410x"
  manufacturer := "MXCHIP Inc."
  firmware := "MICO_BASIC_1_0"
  hardware := "LPC5410x_1"
  protocol := "com.mxchip.basic"
  os := "mico-system-0.1.0"

/-- The name of a device that was given none. -/
def defaultName : String := "MiCOKit LPC5410x"

/-- The version of the factory settings. Stored settings of another version are dropped. -/
def configSeed : UInt32 := 1

end DeviceInfo
end ConnectedDevice
