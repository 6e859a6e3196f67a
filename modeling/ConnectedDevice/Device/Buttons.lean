import ConnectedDevice.Device.Basic

/-!
The buttons of the device. A click asks for a new provisioning after a restart, a long press for the
factory settings.
-/

namespace ConnectedDevice.Device

open Act

/-- The settings change in memory only. They are written before the restart. -/
def clickEasyLink : Fallible Unit := do
  let s ← settings
  setSettings (s.modifySystem fun c => { c with bypass := .no }.requestReconfiguration)
  markDirty
  requestPower .softwareReset

def holdEasyLink : Fallible Unit := do
  let s ← settings
  setSettings { s with record := s.record.restoreDefaults }
  commit
  requestPower .softwareReset

def clickStandby : Act Unit := requestPower .standby

end ConnectedDevice.Device
