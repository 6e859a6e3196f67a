import ConnectedDevice.Report
import ConnectedDevice.Server.Message
import ConnectedDevice.Update.Reader
import ConnectedDevice.Upload

/-!
How the configuration server answers. Settings are buffered as a whole before they are read; an
image is written chunk by chunk as it arrives.
-/

namespace ConnectedDevice.Server

open Act

/-- The longest body that is buffered. -/
def bufferLimit : Nat := 2 * 1024 * 1024

def firmwareType : String := "application/ota-stream"

/-- The body as a whole, or the answer to a body that cannot be buffered. -/
def Request.buffer (r : Request) : Except Response Bytes :=
  if bufferLimit < r.body.length then
    .error (.plain 413 "Failed to buffer the request body: length limit exceeded")
  else
    match r.fault with
    | some text => .error (.plain 400 s!"Failed to buffer the request body: {text}")
    | none => .ok r.body

def parseUpdate (body : Bytes) : Except Error Update :=
  if body.isEmpty then .error .emptyConfiguration
  else
    match Update.ofJson body with
    | .ok u => .ok u
    | .error e => .error (.json e)

def report : Fallible String := do
  let s ← settings
  return Report.json (← device).info s.system s.status

/-- Settings from the network that the device is on. They count as its full configuration. -/
def write (body : Bytes) : Fallible Unit := do
  let update ← Fallible.ofExcept (parseUpdate body)
  let s ← settings
  let (system, applied) := update.apply s.system
  setSettings (s.modifySystem fun _ => system.advance .allConfigured)
  commit
  match applied.identifier with
  | some identifier =>
    setIdentifier identifier
    reannounce .station
  | none => pure ()
  if applied.needReboot then requestPower .softwareReset

/-- Settings from a peer on the soft access point. The device leaves it for the network that they
name, after its answer had time to arrive. -/
def writeSoftAp (body : Bytes) : Fallible Unit := do
  let update ← Fallible.ofExcept (parseUpdate body)
  let s ← settings
  let (system, applied) := update.apply { s.system with bypass := .no }
  setSettings (s.modifySystem fun _ => system)
  match applied.identifier with
  | some identifier => setIdentifier identifier
  | none => pure ()
  commit
  spawn (.softApJoin ((← now) + limits.softApJoinDelay) (.normal system))

/-- The answer to an act whose success needs no body. -/
def conclude {α : Type} (act : Fallible α) : Act Response := do
  match ← act.run with
  | .ok _ => return .bare 200
  | .error e => return .ofError e

def receiveFirmware (r : Request) : Act Response := do
  if ((← get).board.flash.partition? .otaTemp).isNone then return .refusal 404 .noOtaPartition
  else if (r.contentType.map (·.toLower)) ≠ some firmwareType then
    return .refusal 415 .wrongContentType
  else conclude (Upload.receiveAll r.declared r.chunks r.fault)

def buffered (r : Request) (handler : Bytes → Fallible Unit) : Act Response :=
  match r.buffer with
  | .ok body => conclude (handler body)
  | .error response => return response

def answer (resource : Resource) (r : Request) : Act Response :=
  match resource with
  | .report => do
    match ← report.run with
    | .ok text => return .json 200 text
    | .error e => return .ofError e
  | .settings => buffered r write
  | .softApSettings => buffered r writeSoftAp
  | .firmware => receiveFirmware r

/-- The response to a request. A request for the head alone gets no body. -/
def respond (r : Request) : Act Response := do
  match Resource.ofPath? r.path with
  | none => return .bare 404
  | some resource =>
    if !resource.allows r.method then return .bare 405
    let response ← answer resource r
    return if r.method = .head then { response with body := "" } else response

end ConnectedDevice.Server
