import ConnectedDevice.Json.Number
import ConnectedDevice.Json.Text

/-!
Values in JSON texts, read for a field of known kind or skipped. A null stands for a missing value
of any kind. Skipping checks the grammar only, to any depth of nesting.
-/

namespace ConnectedDevice.Json

def isBlank (b : UInt8) : Bool := b == 0x20 || b == 0x0A || b == 0x0D || b == 0x09

def skipBlanks (input : Bytes) : Bytes := input.dropWhile isBlank

/-- The given letters and nothing else. -/
def readIdent : Bytes → Bytes → Except JsonError Bytes
  | [], input => .ok input
  | _ :: _, [] => .error .valueEnds
  | c :: cs, b :: rest => if b = c then readIdent cs rest else .error .expectedIdent

/-- What follows the first letter of `true`, `false` and `null`. -/
def trueRest : Bytes := [0x72, 0x75, 0x65]
def falseRest : Bytes := [0x61, 0x6C, 0x73, 0x65]
def nullRest : Bytes := [0x75, 0x6C, 0x6C]

def readNumber (input : Bytes) : Except JsonError (Found × Bytes) :=
  match Numeral.read input with
  | .error .ends => .error .valueEnds
  | .error .malformed => .error .invalidNumber
  | .ok (n, rest) =>
    match n.value? with
    | some x => .ok (x, rest)
    | none => .error .numberOutOfRange

/-- The error of a value, at the front of the input, that is not of the wanted kind. -/
def mismatch (wanted : Wanted) (input : Bytes) : JsonError :=
  let of : Except JsonError (Found × Bytes) :=
    match input with
    | 0x6E :: rest => (readIdent nullRest rest).map (Found.null, ·)
    | 0x74 :: rest => (readIdent trueRest rest).map (Found.flag true, ·)
    | 0x66 :: rest => (readIdent falseRest rest).map (Found.flag false, ·)
    | 0x22 :: rest => (readText rest).map fun (s, rest) => (.text s, rest)
    | 0x5B :: rest => .ok (.array, rest)
    | 0x7B :: rest => .ok (.object, rest)
    | b :: _ =>
      if b = 0x2D ∨ isDigit b then readNumber input else .error .expectedValue
    | [] => .error .valueEnds
  match of with
  | .ok (found, _) => .invalidType found wanted
  | .error e => e

/-- The readers of the kinds of values that a field can want. They start at the value. -/
def readTextValue : Bytes → Except JsonError (String × Bytes)
  | 0x22 :: rest => readText rest
  | input => .error (mismatch .text input)

def readFlag : Bytes → Except JsonError (Bool × Bytes)
  | 0x74 :: rest => (readIdent trueRest rest).map (true, ·)
  | 0x66 :: rest => (readIdent falseRest rest).map (false, ·)
  | input => .error (mismatch .flag input)

def readWord (input : Bytes) : Except JsonError (UInt32 × Bytes) :=
  match input with
  | b :: _ =>
    if b = 0x2D ∨ isDigit b then
      match readNumber input with
      | .error e => .error e
      | .ok (.integer n, rest) =>
        if 0 ≤ n ∧ n.toNat < UInt32.size then .ok (n.toNat.toUInt32, rest)
        else .error (.invalidValue (.integer n) .word)
      | .ok (found, _) => .error (.invalidType found .word)
    else .error (mismatch .word input)
  | [] => .error .valueEnds

/-- A value of the kind that `read` reads, or null. -/
def readOptional {α : Type} (read : Bytes → Except JsonError (α × Bytes)) (input : Bytes) :
    Except JsonError (Option α × Bytes) :=
  match skipBlanks input with
  | [] => .error .valueEnds
  | 0x6E :: rest => (readIdent nullRest rest).map (none, ·)
  | input => (read input).map fun (x, rest) => (some x, rest)

inductive Bracket where
  | array
  | object
deriving DecidableEq, Repr

/-- The next thing to skip: a value, the name of a member and its value, or what follows a value or
an opening bracket. -/
inductive Expecting where
  | value
  | member
  | next (afterValue : Bool)
deriving DecidableEq, Repr

/-- A value that is neither an array nor an object. -/
def skipScalar : Bytes → Except JsonError Bytes
  | 0x6E :: rest => readIdent nullRest rest
  | 0x74 :: rest => readIdent trueRest rest
  | 0x66 :: rest => readIdent falseRest rest
  | 0x22 :: rest => skipText rest
  | input@(b :: _) =>
    if b = 0x2D ∨ isDigit b then
      match Numeral.read input with
      | .ok (_, rest) => .ok rest
      | .error _ => .error .invalidNumber
    else .error .expectedValue
  | [] => .error .valueEnds

/-- Skips to the end of the outermost of the open brackets, innermost first. Every step but those
to a first element or member consumes a byte, so twice the length of the input is enough fuel. -/
def skip : Nat → List Bracket → Expecting → Bytes → Except JsonError Bytes
  | 0, _, _, _ => .error .valueEnds
  | fuel + 1, opened, .value, input =>
    match skipBlanks input with
    | 0x5B :: rest => skip fuel (.array :: opened) (.next false) rest
    | 0x7B :: rest => skip fuel (.object :: opened) (.next false) rest
    | input =>
      match skipScalar input with
      | .ok rest => skip fuel opened (.next true) rest
      | .error e => .error e
  | fuel + 1, opened, .member, input =>
    match skipBlanks input with
    | [] => .error .objectEnds
    | 0x22 :: rest =>
      match skipText rest with
      | .error e => .error e
      | .ok rest =>
        match skipBlanks rest with
        | [] => .error .objectEnds
        | 0x3A :: rest => skip fuel opened .value rest
        | _ => .error .expectedColon
    | _ => .error .keyNotString
  | _ + 1, [], .next _, input => .ok input
  | fuel + 1, .array :: opened, .next afterValue, input =>
    match skipBlanks input with
    | [] => .error .arrayEnds
    | 0x5D :: rest => skip fuel opened (.next true) rest
    | input@(b :: rest) =>
      if !afterValue then skip fuel (.array :: opened) .value input
      else if b = 0x2C then skip fuel (.array :: opened) .value rest
      else .error .expectedCommaInArray
  | fuel + 1, .object :: opened, .next afterValue, input =>
    match skipBlanks input with
    | [] => .error .objectEnds
    | 0x7D :: rest => skip fuel opened (.next true) rest
    | input@(b :: rest) =>
      if !afterValue then skip fuel (.object :: opened) .member input
      else if b = 0x2C then skip fuel (.object :: opened) .member rest
      else .error .expectedCommaInObject

def skipValue (input : Bytes) : Except JsonError Bytes :=
  skip (2 * input.length + 2) [] .value input

end ConnectedDevice.Json
