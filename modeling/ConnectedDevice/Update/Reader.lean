import ConnectedDevice.Json.Value
import ConnectedDevice.Update.Basic

/-!
Updates as JSON texts: an object with the known names, each at most once, and any other members; or
an array of all fields in order. A null is a missing field.
-/

namespace ConnectedDevice.Update

open Json (readOptional readTextValue readFlag readWord skipBlanks skipValue)

inductive Field where
  | name
  | ssid
  | password
  | dhcp
  | identifier
  | ip
  | netmask
  | gateway
  | dns1
  | rfPowerSave
  | mcuPowerSave
deriving DecidableEq, Repr

namespace Field

/-- The fields in the order of the array form. -/
def all : List Field :=
  [.name, .ssid, .password, .dhcp, .identifier, .ip, .netmask, .gateway, .dns1, .rfPowerSave,
    .mcuPowerSave]

def label : Field → String
  | .name => "NAME"
  | .ssid => "SSID"
  | .password => "PASSWORD"
  | .dhcp => "DHCP"
  | .identifier => "IDENTIFIER"
  | .ip => "IP"
  | .netmask => "NETMASK"
  | .gateway => "GATEWAY"
  | .dns1 => "DNS1"
  | .rfPowerSave => "RF_POWER_SAVE"
  | .mcuPowerSave => "MCU_POWER_SAVE"

def ofLabel? (s : String) : Option Field := all.find? fun f => f.label == s

/-- Reads the value of a field into an update. -/
def read (u : Update) (input : Bytes) : Field → Except JsonError (Update × Bytes)
  | .name => (readOptional readTextValue input).map fun (x, rest) => ({ u with name := x }, rest)
  | .ssid => (readOptional readTextValue input).map fun (x, rest) => ({ u with ssid := x }, rest)
  | .password =>
    (readOptional readTextValue input).map fun (x, rest) => ({ u with password := x }, rest)
  | .dhcp => (readOptional readFlag input).map fun (x, rest) => ({ u with dhcp := x }, rest)
  | .identifier =>
    (readOptional readWord input).map fun (x, rest) => ({ u with identifier := x }, rest)
  | .ip => (readOptional readTextValue input).map fun (x, rest) => ({ u with ip := x }, rest)
  | .netmask =>
    (readOptional readTextValue input).map fun (x, rest) => ({ u with netmask := x }, rest)
  | .gateway =>
    (readOptional readTextValue input).map fun (x, rest) => ({ u with gateway := x }, rest)
  | .dns1 => (readOptional readTextValue input).map fun (x, rest) => ({ u with dns1 := x }, rest)
  | .rfPowerSave =>
    (readOptional readFlag input).map fun (x, rest) => ({ u with rfPowerSave := x }, rest)
  | .mcuPowerSave =>
    (readOptional readFlag input).map fun (x, rest) => ({ u with mcuPowerSave := x }, rest)

end Field

/-- The name of updates in messages. -/
def recordName : String := "ConfigUpdate"

/-- What stands after the name of a member, up to its value. -/
def readColon (input : Bytes) : Except JsonError Bytes :=
  match skipBlanks input with
  | [] => .error .objectEnds
  | 0x3A :: rest => .ok rest
  | _ => .error .expectedColon

/-- A member after the opening quote of its name, and the fields seen with it. -/
def readMember (seen : List Field) (u : Update) (input : Bytes) :
    Except JsonError ((List Field × Update) × Bytes) := do
  let (label, input) ← Json.readText input
  match Field.ofLabel? label with
  | some f =>
    if f ∈ seen then throw (.duplicateField label)
    let input ← readColon input
    let (u, input) ← f.read u input
    return ((f :: seen, u), input)
  | none =>
    let input ← readColon input
    let input ← skipValue input
    return ((seen, u), input)

/-- The bytes after the opening quote of the next member's name, `none` at the end. -/
def nextMember (first : Bool) (input : Bytes) : Except JsonError (Bool × Bytes) :=
  match skipBlanks input with
  | [] => .error .objectEnds
  | 0x7D :: rest => .ok (false, rest)
  | b :: rest =>
    if first then
      if b = 0x22 then .ok (true, rest) else .error .keyNotString
    else if b = 0x2C then
      match skipBlanks rest with
      | [] => .error .valueEnds
      | 0x22 :: rest => .ok (true, rest)
      | 0x7D :: _ => .error .trailingComma
      | _ => .error .keyNotString
    else .error .expectedCommaInObject

/-- The members up to the closing brace. Every member takes a byte at least, so the length of the
input is enough fuel. -/
def readMembers : Nat → Bool → List Field → Update → Bytes → Except JsonError (Update × Bytes)
  | 0, _, _, _, _ => .error .objectEnds
  | fuel + 1, first, seen, u, input =>
    match nextMember first input with
    | .error e => .error e
    | .ok (false, rest) => .ok (u, rest)
    | .ok (true, rest) =>
      match readMember seen u rest with
      | .error e => .error e
      | .ok ((seen, u), rest) => readMembers fuel false seen u rest

/-- The bytes from the next element on, `none` at the end of the array. -/
def nextElement (first : Bool) (input : Bytes) : Except JsonError (Option Bytes) :=
  match skipBlanks input with
  | [] => .error .arrayEnds
  | 0x5D :: _ => .ok none
  | input@(b :: rest) =>
    if first then .ok (some input)
    else if b = 0x2C then
      match skipBlanks rest with
      | [] => .error .valueEnds
      | 0x5D :: _ => .error .trailingComma
      | rest => .ok (some rest)
    else .error .expectedCommaInArray

def closeArray (input : Bytes) : Except JsonError Bytes :=
  match skipBlanks input with
  | [] => .error .arrayEnds
  | 0x5D :: rest => .ok rest
  | 0x2C :: rest =>
    .error (if (skipBlanks rest).head? = some 0x5D then .trailingComma else .trailingCharacters)
  | _ => .error .trailingCharacters

/-- The given fields, of which the first is element number `index`, and the closing bracket. -/
def readElements (index : Nat) (u : Update) (input : Bytes) :
    List Field → Except JsonError (Update × Bytes)
  | [] => (closeArray input).map (u, ·)
  | f :: fields =>
    match nextElement (index == 0) input with
    | .error e => .error e
    | .ok none => .error (.invalidLength index recordName Field.all.length)
    | .ok (some input) =>
      match f.read u input with
      | .error e => .error e
      | .ok (u, rest) => readElements (index + 1) u rest fields

def ofJson (body : Bytes) : Except JsonError Update := do
  let (u, rest) ←
    match skipBlanks body with
    | [] => throw .valueEnds
    | 0x5B :: rest => readElements 0 .empty rest Field.all
    | 0x7B :: rest => readMembers (rest.length + 1) true [] .empty rest
    | input => throw (Json.mismatch (.record recordName) input)
  if (skipBlanks rest).isEmpty then return u else throw .trailingCharacters

end ConnectedDevice.Update
