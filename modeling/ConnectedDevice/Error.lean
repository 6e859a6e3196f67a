import ConnectedDevice.Config.Image
import ConnectedDevice.EasyLink.ExtraData
import ConnectedDevice.Flash.Layout
import ConnectedDevice.Json.Error
import ConnectedDevice.Notification.Basic

/-!
What can go wrong in the device, as causes. A cause has a kind, which decides how a request is
answered, and a text.
-/

namespace ConnectedDevice

inductive ErrorKind where
  | param
  | notInitialized
  | resourceExhausted
  | timeout
  | connection
  | flash
  | fatal
  | serialization
  | server
  | advertisement
deriving DecidableEq, Repr

def ErrorKind.all : List ErrorKind :=
  [.param, .notInitialized, .resourceExhausted, .timeout, .connection, .flash, .fatal,
    .serialization, .server, .advertisement]

def ErrorKind.description : ErrorKind → String
  | .param => "Invalid Parameter"
  | .notInitialized => "Not Initialized"
  | .resourceExhausted => "Resource Exhausted"
  | .timeout => "Timeout"
  | .connection => "Connection"
  | .flash => "Flash"
  | .fatal => "Fatal"
  | .serialization => "Serialization"
  | .server => "Configuration Server"
  | .advertisement => "Advertisement"

inductive Error where
  /-- reported by the hardware, or made by an application -/
  | reported (kind : ErrorKind) (info : String)
  | connection (text : String)
  | advertisement (text : String)
  | json (cause : JsonError)
  | image (cause : ImageError)
  | extraData (cause : ExtraDataError)
  | flash (cause : FlashError)
  | noConfigPartition
  | recordTooLarge (length size : Nat)
  | storeNotInitialized
  | kindFull (kind : NotificationKind) (capacity : Nat)
  | provisioningRuns
  | monitorFull (name : String)
  | monitorExpired (name : String)
  | stopped
  | portNotBound (port : Nat) (text : String)
  | emptyConfiguration
  | noOtaPartition
  | wrongContentType
  | announcedTooLarge (length size : Nat)
  | uploadTooLarge (size : Nat)
  | uploadInterrupted (text : String)
  | uploadEmpty
  | uploadTruncated (length announced : Nat)
  | uploadOutOfRange
deriving DecidableEq, Repr

namespace Error

def kind : Error → ErrorKind
  | .reported kind _ => kind
  | .connection _ | .uploadInterrupted _ | .uploadTruncated .. => .connection
  | .advertisement _ => .advertisement
  | .json _ | .image _ => .serialization
  | .flash _ | .noConfigPartition | .recordTooLarge .. => .flash
  | .storeNotInitialized | .stopped | .noOtaPartition => .notInitialized
  | .kindFull .. | .provisioningRuns | .monitorFull _ => .resourceExhausted
  | .monitorExpired _ => .fatal
  | .portNotBound .. => .server
  | .extraData _ | .emptyConfiguration | .wrongContentType | .announcedTooLarge ..
  | .uploadTooLarge _ | .uploadEmpty | .uploadOutOfRange => .param

def info : Error → String
  | .reported _ info => info
  | .connection text | .advertisement text => text
  | .json cause => cause.message
  | .image cause => cause.message
  | .extraData cause => cause.message
  | .flash cause => cause.message
  | .noConfigPartition => "The device has no configuration partition"
  | .recordTooLarge length size =>
    s!"Configuration image of {length} bytes exceeds the partition of {size} bytes"
  | .storeNotInitialized => "The configuration store is not initialized"
  | .kindFull kind capacity => s!"`{kind.name}` already has {capacity} subscribers"
  | .provisioningRuns => "A provisioning task is already running"
  | .monitorFull name => s!"No monitor slot left for `{name}`"
  | .monitorExpired name => s!"Monitor `{name}` expired"
  | .stopped => "The system is stopped"
  | .portNotBound port text => s!"Impossible to bind port {port}: {text}"
  | .emptyConfiguration => "Empty configuration"
  | .noOtaPartition => "The device has no OTA partition"
  | .wrongContentType => "Firmware images are sent as `application/ota-stream`"
  | .announcedTooLarge length size =>
    s!"Image of {length} bytes exceeds the OTA partition of {size} bytes"
  | .uploadTooLarge size => s!"Image exceeds the OTA partition of {size} bytes"
  | .uploadInterrupted text => s!"OTA stream interrupted: {text}"
  | .uploadEmpty => "Empty OTA image"
  | .uploadTruncated length announced => s!"OTA image truncated at {length} of {announced} bytes"
  | .uploadOutOfRange => "OTA image length out of range"

def text (e : Error) : String := s!"{e.kind.description}: {e.info}"

end Error
end ConnectedDevice
