import ConnectedDevice.Error
import ConnectedDevice.Json.Writer

/-!
Requests to the configuration server and its responses. A request that fails is answered with a
status that follows from the kind of the error, and with the error as a JSON object.
-/

namespace ConnectedDevice.Server

inductive Method where
  | get
  | head
  | post
  | other
deriving DecidableEq, Repr

/-- How the head of a request tells where the body ends. -/
inductive Framing where
  | length (n : Nat)
  | chunked
  /-- without either there is no body -/
  | none
deriving DecidableEq, Repr

structure Request where
  method : Method
  /-- without the query -/
  path : String
  contentType : Option String
  /-- the length that the head of the request declares -/
  declared : Option Nat
  /-- the body as it arrives -/
  chunks : List Bytes
  /-- what broke the body off, if it did not arrive whole -/
  fault : Option String
deriving DecidableEq, Repr

namespace Request

/-- The request whose sender sends `parts` and closes its side. `ended` tells whether the last chunk
of a chunked body was marked as such. Bytes beyond a declared length are not part of the body. -/
def framed (method : Method) (path : String) (contentType : Option String) (framing : Framing)
    (parts : List Bytes) (ended : Bool) : Request :=
  let broken := some "error reading a body from connection"
  match framing with
  | .chunked => ⟨method, path, contentType, none, parts, if ended then none else broken⟩
  | .none => ⟨method, path, contentType, none, [], none⟩
  | .length n =>
    let sent := parts.flatten
    ⟨method, path, contentType, some n, [sent.take n], if sent.length < n then broken else none⟩

def body (r : Request) : Bytes := r.chunks.flatten

end Request

structure Response where
  status : Nat
  contentType : Option String
  body : String
deriving DecidableEq, Repr

namespace Response

def bare (status : Nat) : Response := ⟨status, none, ""⟩

def json (status : Nat) (body : String) : Response := ⟨status, some "application/json", body⟩

def plain (status : Nat) (body : String) : Response :=
  ⟨status, some "text/plain; charset=utf-8", body⟩

def refusal (status : Nat) (e : Error) : Response :=
  json status (Json.Value.object
    [("ERROR", .text e.kind.description), ("INFO", .text e.info)]).render

end Response

def statusOf : ErrorKind → Nat
  | .param | .serialization | .connection => 400
  | .notInitialized => 503
  | .resourceExhausted | .timeout | .flash | .fatal | .server | .advertisement => 500

def Response.ofError (e : Error) : Response := .refusal (statusOf e.kind) e

/-- What the server offers. -/
inductive Resource where
  | report
  | settings
  /-- settings that are sent through the soft access point -/
  | softApSettings
  | firmware
deriving DecidableEq, Repr

namespace Resource

def all : List Resource := [.report, .settings, .softApSettings, .firmware]

def path : Resource → String
  | .report => "/config-read"
  | .settings => "/config-write"
  | .softApSettings => "/config-write-uap"
  | .firmware => "/OTA"

def ofPath? (path : String) : Option Resource := all.find? fun r => r.path == path

def allows : Resource → Method → Bool
  | .report, .get | .report, .head => true
  | .settings, .post | .softApSettings, .post | .firmware, .post => true
  | _, _ => false

end Resource
end ConnectedDevice.Server
