import ConnectedDevice.Device.Basic

/-!
What a provisioning run does with the notifications of the driver. The first stage of a discovery
delivers credentials, the second one the extra data; both are ignored once the session is decided.
-/

namespace ConnectedDevice.Provisioning

open Act

def finish (run : Nat) (success : Bool) : Act Unit :=
  modifyDevice fun d => d.modifySession run (·.finish success)

def onStatus (run : Nat) : WifiEvent → Act Unit
  | .stationUp => do
    reannounce .station
    match (← device).store.loaded with
    | some s =>
      setSettings (s.modifySystem (·.advance .allConfigured))
      discard commit.run
    | none => pure ()
    modifyDevice fun d => d.modifySession run (·.connect)
  | .apDown => tell (.withdraw .softAp)
  | .stationDown | .apUp => pure ()

/-- A method without a second stage is decided by the credentials. -/
def onCredentials (run : Nat) (received : Option Credentials) : Act Unit := do
  let d ← device
  if (d.session run).isDecided then return
  match received, d.store.loaded with
  | some c, some s =>
    setSettings (s.modifySystem (·.setCredentials c.ssid c.key))
    if (d.runs[run]?).any (·.method == some .airKiss) then finish run true
  | _, _ => finish run false

/-- Whether the application accepts the authentication data. -/
def acceptsAuth (auth : Bytes) : Act Bool := do
  if !(← device).hooked then return true
  match ← (issue (.hook (.receivedAuthData auth))).run with
  | .ok _ => return true
  | .error _ => return false

def setAddresses (staticIp : Option StaticIp) (c : SystemConfig) : SystemConfig :=
  match staticIp with
  | some ip => c.setStaticIp ip.localIp ip.netmask ip.gateway ip.dnsServer
  | none => { c with dhcpEnable := true }

def onExtraData (run : Nat) (data : Bytes) : Act Unit := do
  if ((← device).session run).isDecided then return
  match ExtraData.parse data with
  | .error _ => finish run false
  | .ok extra =>
    if !(← acceptsAuth extra.auth) then finish run false
    else
      setIdentifier extra.identifier
      match (← device).store.loaded with
      | none => finish run false
      | some s =>
        setSettings (s.modifySystem (setAddresses extra.staticIp))
        finish run true

def handle (run : Nat) : Notification → Act Unit
  | .wifiStatusChanged event => onStatus run event
  | .easyLinkCompleted received => onCredentials run received
  | .easyLinkExtraData data => onExtraData run data
  | _ => pure ()

end ConnectedDevice.Provisioning
