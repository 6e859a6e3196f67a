import ConnectedDevice.Wlan

/-!
How a system is set up, and the fixed sizes and delays of its parts. All times are in milliseconds.
-/

namespace ConnectedDevice

inductive ProvisioningMode where
  | easyLink
  | easyLinkWithSoftAp
  | softAp
  | airKiss
deriving DecidableEq, Repr

namespace ProvisioningMode

def all : List ProvisioningMode := [.easyLink, .easyLinkWithSoftAp, .softAp, .airKiss]

def discoveryMethod? : ProvisioningMode → Option DiscoveryMethod
  | .easyLink | .easyLinkWithSoftAp => some .easyLinkPlus
  | .airKiss => some .airKiss
  | .softAp => none

/-- Whether a device that found no network opens its own access point. -/
def fallsBackToSoftAp : ProvisioningMode → Bool
  | .easyLinkWithSoftAp | .softAp => true
  | .easyLink | .airKiss => false

end ProvisioningMode

/-- The fixed sizes of tables and the fixed delays. -/
structure Limits where
  configClients : Nat
  monitors : Nat
  subscribersPerKind : Nat
  /-- how long the station stays announced after a provisioning run -/
  lingerTime : Nat
  /-- from an answer through the soft access point to the join that it asks for -/
  softApJoinDelay : Nat
  /-- from the announcement of a power transition to the transition -/
  powerOffDelay : Nat
  systemCheckpoint : Nat
  /-- added to the period of the monitor for the watchdog -/
  watchdogMargin : Nat

def limits : Limits where
  configClients := 5
  monitors := 5
  subscribersPerKind := 8
  lingerTime := 60000
  softApJoinDelay := 1000
  powerOffDelay := 500
  systemCheckpoint := 5000
  watchdogMargin := 1000

structure Options where
  mode : ProvisioningMode
  /-- after which the driver gives up a discovery -/
  discoveryTimeout : Nat
  connectTimeout : Nat
  maxAttempts : Nat
  configServer : Bool
  port : Nat
  monitor : Bool
  monitorPeriod : Nat
  appDataSize : Nat
deriving DecidableEq, Repr

namespace Options

def standard : Options where
  mode := .easyLinkWithSoftAp
  discoveryTimeout := 60000
  connectTimeout := 20000
  maxAttempts := 5
  configServer := true
  port := 8000
  monitor := true
  monitorPeriod := 2000
  appDataSize := 0

/-- One attempt is made at least. -/
def setMaxAttempts (o : Options) (n : Nat) : Options := { o with maxAttempts := max 1 n }

end Options
end ConnectedDevice
