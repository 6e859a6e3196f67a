import ConnectedDevice.Announcement
import ConnectedDevice.Flash.Nor
import ConnectedDevice.Notification.Center

/-!
What surrounds a system: the clock, the flash, the notification center, and the hardware. Every
command that a system gives is kept in order, whether it was accepted or not.
-/

namespace ConnectedDevice

/-- The moments of a provisioning run that the application hears of. -/
inductive Hook where
  | configWillStart
  | configWillStop
  | easyLinkSucceeded
  | softApWillStart
  /-- the application may refuse these data -/
  | receivedAuthData (auth : Bytes)
deriving DecidableEq, Repr

inductive RadioCommand where
  | startDiscovery (method : DiscoveryMethod) (timeout : Nat)
  | stopDiscovery
  | connect (params : JoinParams)
  | startSoftAp (config : SoftApConfig)
  | suspendSoftAp
  | powerOff
  | setPowerSave (enabled : Bool)
deriving DecidableEq, Repr

inductive Command where
  | radio (command : RadioCommand)
  | reboot
  | standby
  | armWatchdog (timeout : Nat)
  | announce (interface : Interface) (announcement : Announcement)
  | reannounce (interface : Interface) (announcement : Announcement)
  | withdraw (interface : Interface)
  | hook (hook : Hook)
  /-- a callback of the application, called with a notification -/
  | callback (label : String) (kind : NotificationKind)
deriving DecidableEq, Repr

/-- The answers of the hardware and of the application. -/
structure Hardware where
  macAddress : Except Error MacAddress
  rfVersion : Except Error String
  answer : Command → Except Error Unit
  /-- the port that a server gets for the port it asks for, or why it gets none -/
  bind : Nat → Except String Nat

/-- Who a registration at the notification center belongs to. -/
inductive Handler where
  | system (device : Nat)
  | provisioning (device run : Nat)
  | application (label : String)
deriving DecidableEq, Repr

structure Board where
  /-- milliseconds since the start -/
  now : Nat
  flash : Nor
  center : Center Handler
  hardware : Hardware
  issued : List Command
  reloads : Nat

namespace Board

def make (flash : Nor) (capacity : Nat) (hardware : Hardware) : Board where
  now := 0
  flash := flash
  center := .empty capacity
  hardware := hardware
  issued := []
  reloads := 0

def issue (b : Board) (c : Command) : Except Error Unit × Board :=
  (b.hardware.answer c, { b with issued := b.issued ++ [c] })

end Board
end ConnectedDevice
